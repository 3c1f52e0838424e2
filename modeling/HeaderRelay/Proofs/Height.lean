import HeaderRelay.Height
import Mathlib.Algebra.Ring.Nat
import Mathlib.Data.BitVec
import Mathlib.Tactic.Common

/-!
# Heights as numbers
-/

namespace HeaderRelay.Height

variable {height other : Height} {count : Nat}

theorem ofNat_eq_iff {number : Nat} (inRange : number < 2 ^ 32) :
    UInt32.ofNat number = height ↔ height.toNat = number := by
  rw [← UInt32.toNat_inj, UInt32.toNat_ofNat_of_lt' inRange, eq_comm]

theorem up?_eq_some_iff : height.up? count = some other ↔ other.toNat = height.toNat + count := by
  unfold up?
  split
  next inRange => rw [Option.some.injEq, ofNat_eq_iff inRange]
  next outside =>
    have := other.toNat_lt
    simp only [UInt32.size] at outside
    simp only [reduceCtorEq, false_iff]
    omega

theorem down?_eq_some_iff :
    height.down? count = some other ↔ height.toNat = other.toNat + count := by
  have := height.toNat_lt
  unfold down?
  split
  next inRange =>
    rw [Option.some.injEq, ofNat_eq_iff (by omega)]
    omega
  next outside =>
    simp only [reduceCtorEq, false_iff]
    omega

theorem down?_eq_none_iff : height.down? count = none ↔ height.toNat < count := by
  unfold down?
  split
  next inRange => simp [inRange]
  next outside => simpa using outside

theorem toNat_down (height : Height) (count : Nat) :
    (height.down count).toNat = height.toNat - count := by
  have := height.toNat_lt
  exact UInt32.toNat_ofNat_of_lt' (by simp only [UInt32.size]; omega)

theorem toNat_saturate (number : Nat) : (saturate number).toNat = min number (2 ^ 32 - 1) :=
  UInt32.toNat_ofNat_of_lt' (by simp only [UInt32.size]; omega)

theorem toNat_up (height : Height) (count : Nat) :
    (height.up count).toNat = min (height.toNat + count) (2 ^ 32 - 1) :=
  toNat_saturate _

theorem toNat_max (left right : Height) :
    (max left right).toNat = max left.toNat right.toNat := by
  change (if left ≤ right then right else left).toNat = _
  simp only [Nat.max_def, UInt32.le_iff_toNat_le, apply_ite UInt32.toNat]

theorem toNat_succ (height : Height) : (height + 1).toNat = (height.toNat + 1) % 2 ^ 32 := by
  simp [UInt32.toNat_add]

end HeaderRelay.Height

namespace HeaderRelay.Epoch

theorem toNat_ofHeight (height : Height) : (ofHeight height).toNat = height.toNat / 2016 := by
  have := height.toNat_lt
  exact UInt32.toNat_ofNat_of_lt' (by simp only [UInt32.size, length]; omega)

theorem toNat_start (epoch : Epoch) :
    (start epoch).toNat = min (epoch.toNat * 2016) (2 ^ 32 - 1) :=
  Height.toNat_saturate _

end HeaderRelay.Epoch
