import HeaderRelay.Hash

/-!
# Targets and difficulties

A header declares its target in a compact form of 32 bits: one byte of size and
a signed mantissa of three bytes, which together stand for
`mantissa * 256 ^ (size - 3)`.  The difficulty of a target is how often it goes
into the reference target of the network.  All arithmetic is on 256-bit words.
-/

namespace HeaderRelay

/-- The largest hash, read as a number, that a header may have. -/
abbrev Target := BitVec 256

/-- How often a target goes into a reference target. -/
abbrev Difficulty := BitVec 256

/-- The 64 upper case hex digits of a 256-bit word. -/
def hexDigits (word : BitVec 256) : String :=
  String.ofList ((Hex.encodeChars (Bytes.ofNatBE 32 word.toNat)).map Char.toUpper)

namespace Target

/-- The size byte of a compact target. -/
def compactSize (bits : UInt32) : Nat :=
  bits.toNat >>> 24

/-- The mantissa of a compact target, its sign included. -/
def compactMantissa (bits : UInt32) : Nat :=
  bits.toNat &&& 0xFFFFFF

/-- Whether a compact target needs more than 256 bits: which sizes are too large
depends on the number of bytes of the mantissa. -/
def compactOverflows (size mantissa : Nat) : Bool :=
  mantissa ≠ 0 &&
    (size > 34 || (mantissa > 0xFF && size > 33) || (mantissa > 0xFFFF && size > 32))

/-- The target that a compact form stands for. Negative and oversized forms
stand for zero, which no hash meets. -/
def ofBits (bits : UInt32) : Target :=
  let size := compactSize bits
  let mantissa := compactMantissa bits
  if mantissa > 0x7FFFFF then 0
  else if compactOverflows size mantissa then 0
  else if size ≤ 3 then BitVec.ofNat 256 (mantissa >>> (8 * (3 - size)))
  else BitVec.ofNat 256 mantissa <<< (8 * (size - 3))

/-- The difficulty relative to a reference target, rounded down. A zero target
has the largest difficulty there is. -/
def difficulty (target reference : Target) : Difficulty :=
  if target = 0 then BitVec.allOnes 256 else reference / target

/-- Whether a block hash is at most the target. Nothing meets a zero target. -/
def isMetBy (target : Target) (hash : Hash) : Bool :=
  target ≠ 0 && hash.toNat ≤ target.toNat

/-- Whether one retarget may lead from `old` to `new`: neither is zero and they
differ by at most a factor of four.

The upper bound compares quarters, so that four times the old target need not
fit in a word. -/
def mayBecome (old new : Target) : Bool :=
  if old = 0 || new = 0 then false
  else
    let quarter := new >>> 2
    let remainder := new &&& 3
    old >>> 2 ≤ new && (quarter < old || (quarter = old && remainder = 0))

end Target

namespace Difficulty

/-- The text of a difficulty: decimal below `2 ^ 128`, hex above. -/
def format (difficulty : Difficulty) : String :=
  if difficulty.toNat >>> 128 = 0 then toString difficulty.toNat
  else "0x" ++ hexDigits difficulty

/-- `count` times a difficulty, at most the largest word. -/
def saturatingTimes (difficulty : Difficulty) (count : UInt32) : Difficulty :=
  BitVec.ofNat 256 (min (difficulty.toNat * count.toNat) (BitVec.allOnes 256).toNat)

end Difficulty

end HeaderRelay
