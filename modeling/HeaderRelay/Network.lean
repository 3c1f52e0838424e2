import HeaderRelay.Target

/-!
# Networks

The networks that headers may come from and the two numbers in which they
differ: the easiest compact target and the reference target of difficulties.
-/

namespace HeaderRelay

inductive Network where
  | bitcoin
  | testnet
  | testnet4
  | signet
  | regtest
  deriving DecidableEq, Repr

namespace Network

/-- Every network. -/
def all : List Network :=
  [bitcoin, testnet, testnet4, signet, regtest]

def name : Network → String
  | bitcoin => "bitcoin"
  | testnet => "testnet"
  | testnet4 => "testnet4"
  | signet => "signet"
  | regtest => "regtest"

/-- The network of a name, spelt exactly. -/
def ofName? (text : String) : Option Network :=
  all.find? fun network => network.name = text

/-- What difficulty arithmetic needs to know of a network. -/
structure Constants where
  /-- The compact form of the easiest target. -/
  maxBits : UInt32
  /-- The target of difficulty one. -/
  reference : Target
  deriving DecidableEq

/-- The public networks measure difficulty alike. Regtest takes its own easiest
target as the reference, so that chains mined at will have difficulties above
zero. -/
def constants : Network → Constants
  | regtest => ⟨0x207FFFFF, 0x7FFFFF <<< 232⟩
  | _ => ⟨0x1D00FFFF, 0xFFFF <<< 208⟩

end Network

end HeaderRelay
