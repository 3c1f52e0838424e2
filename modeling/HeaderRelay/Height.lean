/-!
# Heights and epochs

Block heights are 32-bit numbers.  A height that would leave this range is
either refused or held at the end of it, and the name of each operation says
which.  The proof-of-work target changes every 2016 blocks; such a run of
blocks is an epoch.
-/

namespace HeaderRelay

/-- The number of blocks on the way from the first block. -/
abbrev Height := UInt32

namespace Height

/-- The largest height. -/
def last : Height :=
  0xFFFFFFFF

/-- The number as a height, held at the largest one. -/
def saturate (number : Nat) : Height :=
  UInt32.ofNat (min number 0xFFFFFFFF)

/-- The height `count` blocks up, unless it is out of range. -/
def up? (height : Height) (count : Nat) : Option Height :=
  if height.toNat + count < UInt32.size then some (UInt32.ofNat (height.toNat + count)) else none

/-- The height `count` blocks down, unless it is out of range. -/
def down? (height : Height) (count : Nat) : Option Height :=
  if count ≤ height.toNat then some (UInt32.ofNat (height.toNat - count)) else none

/-- The height `count` blocks up, held at the largest height. -/
def up (height : Height) (count : Nat) : Height :=
  saturate (height.toNat + count)

/-- The height `count` blocks down, held at zero. -/
def down (height : Height) (count : Nat) : Height :=
  UInt32.ofNat (height.toNat - count)

end Height

/-- The number of an epoch. -/
abbrev Epoch := UInt32

namespace Epoch

/-- The number of blocks of an epoch. -/
def length : Nat :=
  2016

/-- The epoch that a height lies in. -/
def ofHeight (height : Height) : Epoch :=
  UInt32.ofNat (height.toNat / length)

/-- The height of the first block of an epoch, held at the largest height. -/
def start (epoch : Epoch) : Height :=
  Height.saturate (epoch.toNat * length)

/-- Whether an epoch begins at a height. -/
def startsAt (height : Height) : Bool :=
  height.toNat % length = 0

/-- The height at which the epoch of a height begins. -/
def startOf (height : Height) : Height :=
  height.down (height.toNat % length)

end Epoch

end HeaderRelay
