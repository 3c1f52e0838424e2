import HeaderRelay.Header.Chain

/-!
# Anchors

What a proof is held against: the two difficulties that count at the moment,
the network, and possibly a record of the chain itself.
-/

namespace HeaderRelay

structure Anchor where
  constants : Network.Constants
  /-- The difficulties that headers may have, unless none is known yet. -/
  epochs : Except Error EpochDifficulties
  /-- Whether headers belong to the chain that the anchor follows. An anchor
  that knows only difficulties accepts any headers. -/
  checkHeaders : List Header → Except Error Unit := fun _ => .ok ()

namespace Anchor

/-- An anchor that knows two difficulties and nothing else. -/
def fixed (constants : Network.Constants) (epochs : EpochDifficulties) : Anchor where
  constants := constants
  epochs := .ok epochs

end Anchor

end HeaderRelay
