import HeaderRelay.Provider.Backoff
import Mathlib.Algebra.Order.Ring.Nat
import Mathlib.Data.List.Range
import Mathlib.Tactic.Common

/-!
# Growing delays in closed form

The power of the base that a delay stands for is held at the largest word, its
product with the factor is held there again, and from the first delay that is cut
on the power rests.  None of this shows in the delays: each is what the exact power
would give, held at the largest word and then at the longest delay.
-/

namespace HeaderRelay

namespace Pacing

variable {pacing : Pacing} {base factor : UInt64} {longest power position : Nat}
  {powers : Nat → Nat}

/-- What is left of a state after a number of delays. -/
def after (pacing : Pacing) (state : pacing.State) : (count : Nat) → pacing.State
  | 0 => state
  | count + 1 => pacing.after (pacing.next state).2 count

theorem after_succ (state : pacing.State) (count : Nat) :
    pacing.after state (count + 1) = (pacing.next (pacing.after state count)).2 := by
  induction count generalizing state with
  | zero => rfl
  | succ count ih => exact ih (pacing.next state).2

theorem delays_eq_map (state : pacing.State) (count : Nat) :
    pacing.delays state count =
      (List.range count).map fun position => (pacing.next (pacing.after state position)).1 := by
  induction count generalizing state with
  | zero => rfl
  | succ count ih =>
      rw [delays, ih, List.range_succ_eq_map, List.map_cons, List.map_map]
      rfl

/-- What is held at a limit is multiplied as if it were not, if the product is held there
too. -/
theorem min_mul_min {limit scale : Nat} (positive : 1 ≤ scale) (number : Nat) :
    min (min number limit * scale) limit = min (number * scale) limit := by
  rcases Nat.le_total number limit with fits | exceeds
  · rw [Nat.min_eq_left fits]
  · have held : limit ≤ limit * scale := Nat.le_mul_of_pos_right _ positive
    rw [Nat.min_eq_right exceeds, Nat.min_eq_right held,
      Nat.min_eq_right (held.trans (Nat.mul_le_mul_right _ exceeds))]

/-! ## How delays are made -/

/-- Whether delays stand for the powers of a base: the delay is the power times the factor,
in milliseconds and held at the largest word, unless it is cut; the power is then multiplied
by the base, and held at the largest word as well, unless the delay was cut. -/
structure Follows (pacing : Pacing) (base factor : UInt64) (longest : Nat)
    (powers : Nat → Nat) : Prop where
  first : powers 0 = base.toNat
  delay : ∀ position,
    (pacing.next (pacing.after (pacing.start base factor longest) position)).1 =
      min longest (uncut factor (powers position))
  grows : ∀ position, uncut factor (powers position) ≤ longest →
    powers (position + 1) = min (powers position * base.toNat) wordLimit
  rests : ∀ position, longest < uncut factor (powers position) →
    powers (position + 1) = powers position

/-- Whether delays are made so, whatever they are made from. -/
def IsExponential (pacing : Pacing) : Prop :=
  ∀ base factor longest, ∃ powers, pacing.Follows base factor longest powers

/-! ## The delay at a position -/

theorem uncut_le_uncut {other : Nat} (factor : UInt64) (le : power ≤ other) :
    uncut factor power ≤ uncut factor other := by
  unfold uncut
  exact Nat.mul_le_mul_right milli
    (min_le_min_right wordLimit (Nat.mul_le_mul_right factor.toNat le))

/-- It makes no difference to a delay that its power is held at the largest word. -/
theorem uncut_min (positive : 1 ≤ factor.toNat) (power : Nat) :
    uncut factor (min power wordLimit) = uncut factor power := by
  rw [uncut, min_mul_min positive, ← uncut]

/-- The power at a position is exact, up to the largest word, or it rests behind a delay
that was cut. -/
theorem Follows.powers_eq_or (follows : pacing.Follows base factor longest powers)
    (positive : 1 ≤ base.toNat) (position : Nat) :
    powers position = min (base.toNat ^ (position + 1)) wordLimit ∨
      longest < uncut factor (powers position) ∧
        powers position ≤ base.toNat ^ (position + 1) := by
  have larger (position : Nat) : base.toNat ^ (position + 1) ≤ base.toNat ^ (position + 2) :=
    Nat.pow_le_pow_right positive (Nat.le_succ _)
  induction position with
  | zero =>
      left
      have := base.toNat_lt
      rw [follows.first, Nat.zero_add, pow_one, Nat.min_eq_left]
      simp only [wordLimit, UInt64.size]
      omega
  | succ position ih =>
      rcases Nat.lt_or_ge longest (uncut factor (powers position)) with cut | short
      · right
        rw [follows.rests position cut]
        refine ⟨cut, ?_⟩
        rcases ih with exact | ⟨_, below⟩
        · rw [exact]
          exact (Nat.min_le_left _ _).trans (larger position)
        · exact below.trans (larger position)
      · left
        rcases ih with exact | ⟨cut, _⟩
        · rw [follows.grows position short, exact, pow_succ base.toNat (position + 1)]
          exact min_mul_min positive _
        · exact absurd short (Nat.not_le.mpr cut)

/-- A delay is that of the exact power, held at the largest word, unless it is cut. -/
theorem Follows.delay_eq (follows : pacing.Follows base factor longest powers)
    (basePositive : 1 ≤ base.toNat) (factorPositive : 1 ≤ factor.toNat) (position : Nat) :
    (pacing.next (pacing.after (pacing.start base factor longest) position)).1 =
      min longest (uncut factor (base.toNat ^ (position + 1))) := by
  rw [follows.delay]
  rcases follows.powers_eq_or basePositive position with exact | ⟨cut, below⟩
  · rw [exact, uncut_min factorPositive]
  · rw [Nat.min_eq_left (Nat.le_of_lt cut),
      Nat.min_eq_left ((Nat.le_of_lt cut).trans (uncut_le_uncut factor below))]

end Pacing

namespace Progression

theorem next_of_cut (progression : Progression)
    (cut : progression.longest < Pacing.uncut progression.factor progression.power) :
    progression.next = (progression.longest, progression) :=
  if_pos cut

theorem next_of_le (progression : Progression)
    (short : Pacing.uncut progression.factor progression.power ≤ progression.longest) :
    progression.next = (Pacing.uncut progression.factor progression.power,
      { progression with power := min (progression.power * progression.base.toNat) wordLimit }) :=
  if_neg (Nat.not_lt.mpr short)

/-- Only the power changes from one delay to the next. -/
theorem exists_after (base factor : UInt64) (longest position : Nat) :
    ∃ power, pacing.after (pacing.start base factor longest) position =
      (⟨power, base, factor, longest⟩ : Progression) := by
  induction position with
  | zero => exact ⟨base.toNat, rfl⟩
  | succ position ih =>
      obtain ⟨power, reached⟩ := ih
      rw [Pacing.after_succ, reached]
      change ∃ power, (Progression.next _).2 = _
      rcases Nat.lt_or_ge longest (Pacing.uncut factor power) with cut | short
      · rw [next_of_cut ⟨power, base, factor, longest⟩ cut]
        exact ⟨power, rfl⟩
      · rw [next_of_le ⟨power, base, factor, longest⟩ short]
        exact ⟨_, rfl⟩

/-- These delays are made as described. -/
theorem isExponential_pacing : pacing.IsExponential := by
  intro base factor longest
  choose powers reached using exists_after base factor longest
  have next (position : Nat) :
      pacing.next (pacing.after (pacing.start base factor longest) position) =
        Progression.next ⟨powers position, base, factor, longest⟩ :=
    congrArg Progression.next (reached position)
  have power_succ (position : Nat) :
      powers (position + 1) =
        (Progression.next ⟨powers position, base, factor, longest⟩).2.power := by
    rw [← next, ← Pacing.after_succ, reached]
  refine ⟨powers, (congrArg Progression.power (reached 0)).symm, ?_, ?_, ?_⟩
  · intro position
    rw [next]
    rcases Nat.lt_or_ge longest (Pacing.uncut factor (powers position)) with cut | short
    · rw [next_of_cut ⟨powers position, base, factor, longest⟩ cut,
        Nat.min_eq_left (Nat.le_of_lt cut)]
    · rw [next_of_le ⟨powers position, base, factor, longest⟩ short, Nat.min_eq_right short]
  · intro position short
    rw [power_succ, next_of_le ⟨powers position, base, factor, longest⟩ short]
  · intro position cut
    rw [power_succ, next_of_cut ⟨powers position, base, factor, longest⟩ cut]

end Progression

namespace Backoff

variable {pacing : Pacing}

theorem toNat_max_one (word : UInt64) : (max word 1).toNat = max 1 word.toNat := by
  change (if word ≤ 1 then 1 else word).toNat = _
  rw [Nat.max_def, apply_ite UInt64.toNat]
  simp only [UInt64.le_iff_toNat_le, UInt64.toNat_one]
  split <;> split <;> omega

theorem toNat_factor (backoff : Backoff) :
    backoff.factor.toNat =
      max 1 (backoff.initialDelayMillis.toNat / backoff.multiplier.toNat) := by
  rw [factor, toNat_max_one, UInt64.toNat_div]

/-- The delays before any is shortened, one by one. -/
theorem spans_eq_map (exponential : pacing.IsExponential) (backoff : Backoff)
    (positive : 1 ≤ backoff.multiplier.toNat) :
    backoff.spans pacing = (List.range backoff.maxRetries).map fun position =>
      min backoff.maxDelay
        (Pacing.uncut backoff.factor (backoff.multiplier.toNat ^ (position + 1))) := by
  obtain ⟨powers, follows⟩ := exponential backoff.multiplier backoff.factor backoff.maxDelay
  have factorPositive : 1 ≤ backoff.factor.toNat := by
    rw [toNat_factor]
    exact Nat.le_max_left _ _
  rw [spans, Pacing.delays_eq_map]
  exact List.map_congr_left fun position _ => follows.delay_eq positive factorPositive position

/-- The delay at a position, counted from zero: a power of the multiplier times the factor, in
milliseconds and held at the largest word, unless the longest delay is shorter. -/
def delayAt (initialDelayMillis multiplier maxDelay position : Nat) : Nat :=
  let ratio := max 1 multiplier
  let factor := max 1 (initialDelayMillis / ratio)
  min maxDelay (min (2 ^ 64 - 1) (factor * ratio ^ (position + 1)) * 1000000)

theorem delayAt_le_delayAt {initialDelayMillis multiplier maxDelay position later : Nat}
    (le : position ≤ later) :
    delayAt initialDelayMillis multiplier maxDelay position ≤
      delayAt initialDelayMillis multiplier maxDelay later := by
  have powers : max 1 multiplier ^ (position + 1) ≤ max 1 multiplier ^ (later + 1) :=
    Nat.pow_le_pow_right (Nat.le_max_left 1 _) (Nat.succ_le_succ le)
  exact min_le_min_left _ (Nat.mul_le_mul_right _
    (min_le_min_left _ (Nat.mul_le_mul_left _ powers)))

/-- A strategy that shortens nothing, as a list. -/
theorem strategy_upTo (exponential : pacing.IsExponential) (shorten : Nat → Nat → Nat)
    (initialDelayMillis multiplier : UInt64) (maxDelay maxRetries : Nat) :
    (upTo initialDelayMillis maxDelay maxRetries multiplier false).strategy pacing shorten =
      (List.range (min maxRetries 50)).map
        (delayAt initialDelayMillis.toNat multiplier.toNat maxDelay) := by
  generalize isBackoff :
    upTo initialDelayMillis maxDelay maxRetries multiplier false = backoff
  have ratio : backoff.multiplier.toNat = max 1 multiplier.toNat :=
    isBackoff ▸ toNat_max_one multiplier
  have factor : backoff.factor.toNat =
      max 1 (initialDelayMillis.toNat / max 1 multiplier.toNat) := by
    rw [toNat_factor, ratio, ← isBackoff]
    rfl
  have unshortened : backoff.strategy pacing shorten = backoff.spans pacing := by
    rw [← isBackoff]
    rfl
  have retries : backoff.maxRetries = min maxRetries 50 := isBackoff ▸ rfl
  have longest : backoff.maxDelay = maxDelay := isBackoff ▸ rfl
  rw [unshortened, spans_eq_map exponential backoff (ratio ▸ Nat.le_max_left 1 _), retries]
  apply List.map_congr_left
  intro position _
  rw [longest, Pacing.uncut, factor, ratio, Nat.min_comm _ wordLimit, Nat.mul_comm (_ ^ _)]
  rfl

/-- What delays are like that are not shortened: how many there are, how long each of them
is, that none is shorter than the one before, and that none is longer than the longest delay
or than a word of milliseconds. -/
structure Grown (initialDelayMillis multiplier maxDelay maxRetries : Nat)
    (delays : List Nat) : Prop where
  length : delays.length = min maxRetries 50
  closed : ∀ position delay, delays[position]? = some delay →
    delay = delayAt initialDelayMillis multiplier maxDelay position
  increasing : delays.Pairwise (· ≤ ·)
  bounded : ∀ delay ∈ delays, delay ≤ maxDelay
  fits : ∀ delay ∈ delays, delay ≤ (2 ^ 64 - 1) * 1000000

/-- Whatever makes growing delays as described, a strategy has as many of them as may be
asked for, each of them in closed form. -/
theorem strategies_have_closed_form (exponential : pacing.IsExponential)
    (shorten : Nat → Nat → Nat) (initialDelayMillis multiplier : UInt64)
    (maxDelay maxRetries : Nat) :
    Grown initialDelayMillis.toNat multiplier.toNat maxDelay maxRetries
      ((upTo initialDelayMillis maxDelay maxRetries multiplier false).strategy pacing shorten) := by
  rw [strategy_upTo exponential]
  constructor
  case length => rw [List.length_map, List.length_range]
  case closed =>
    intro position delay listed
    rw [List.getElem?_map, Option.map_eq_some_iff] at listed
    obtain ⟨_, same, rfl⟩ := listed
    obtain ⟨_, rfl⟩ := List.getElem?_eq_some_iff.mp same
    rw [List.getElem_range]
  case increasing =>
    rw [List.pairwise_map]
    exact List.pairwise_lt_range.imp fun below => delayAt_le_delayAt (Nat.le_of_lt below)
  case bounded =>
    intro delay member
    obtain ⟨position, _, rfl⟩ := List.mem_map.mp member
    exact Nat.min_le_left _ _
  case fits =>
    intro delay member
    obtain ⟨position, _, rfl⟩ := List.mem_map.mp member
    exact (Nat.min_le_right _ _).trans (Nat.mul_le_mul_right _ (Nat.min_le_left _ _))

/-- Settings under which all delays but the first are held at the largest word, which is
longer than the longest delay by a nanosecond. -/
def overflowing : Backoff :=
  upTo 9223372036854775808 ((2 ^ 64 - 1) * 1000000 - 1) 80 3 false

theorem overflowing_strategy_has_closed_form :
    Progression.pacing.IsExponential ∧
      overflowing.strategy Progression.pacing (fun _ delay => delay) =
        9223372036854775806000000 :: List.replicate 49 18446744073709551614999999 ∧
      Grown 9223372036854775808 3 ((2 ^ 64 - 1) * 1000000 - 1) 80
        (overflowing.strategy Progression.pacing fun _ delay => delay) :=
  ⟨Progression.isExponential_pacing, by decide +kernel,
    strategies_have_closed_form Progression.isExponential_pacing (fun _ delay => delay)
      9223372036854775808 3 ((2 ^ 64 - 1) * 1000000 - 1) 80⟩

end Backoff

end HeaderRelay
