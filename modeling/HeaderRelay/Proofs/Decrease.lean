import HeaderRelay.Proofs.EpochRelay.Retarget
import HeaderRelay.Proofs.WindowRelay.Extension
import Mathlib.Order.Bounds.Basic

/-!
# How far a target may drop

A new target may be as low as a quarter of the old one.  Both relays take the quarter
of the old target as it is, with all its bits, while a header declares a target with a
mantissa of 23 bits.  So the lowest target that a header can declare for a quarter is
admitted where the mantissa holds the quarter, and out of bounds everywhere else.
-/

namespace HeaderRelay

namespace Target

variable {bits : UInt32} {old new : Target}

/-- The numbers other than zero that headers can declare as targets and that are at most
a quarter of a target. -/
def quarters (old : Target) : Set Nat :=
  {number | number ≠ 0 ∧ 4 * number ≤ old.toNat ∧ ∃ bits, (ofBits bits).toNat = number}

/-- Whether a mantissa holds the quarter of a compact target: it has no bytes behind it,
or has room for six more bits, or can do without two. -/
def HoldsQuarter (bits : UInt32) : Prop :=
  compactSize bits ≤ 3 ∨ compactMantissa bits < 2 ^ 17 ∨ 4 ∣ compactMantissa bits

theorem toNat_ofBits_of_ne_zero (nonzero : ofBits bits ≠ 0) :
    compactMantissa bits < 2 ^ 23 ∧
      (ofBits bits).toNat = compactNumber (compactSize bits) (compactMantissa bits) := by
  have positive := toNat_pos_iff.mpr nonzero
  have unfolded := toNat_ofBits bits
  split at unfolded
  next fits => exact ⟨fits.1, unfolded⟩
  next => exact absurd unfolded (Nat.ne_of_gt positive)

theorem toNat_ofBits_of_long (nonzero : ofBits bits ≠ 0) (long : 3 ≤ compactSize bits) :
    (ofBits bits).toNat = compactMantissa bits * 256 ^ (compactSize bits - 3) := by
  rw [(toNat_ofBits_of_ne_zero nonzero).2, compactNumber_of_long long]

/-- A quarter that the mantissa holds can be declared as it is. -/
theorem HoldsQuarter.exists_ofBits (holds : HoldsQuarter bits) :
    ∃ other, (ofBits other).toNat = (ofBits bits).toNat / 4 := by
  have inRange := (ofBits bits).isLt
  rw [exists_ofBits_iff (Nat.lt_of_le_of_lt (Nat.div_le_self _ _) inRange)]
  by_cases zero : ofBits bits = 0
  · exact ⟨0, 0, by decide, by rw [zero]; rfl⟩
  obtain ⟨signless, isNumber⟩ := toNat_ofBits_of_ne_zero zero
  rw [isNumber]
  rcases Nat.lt_or_ge 3 (compactSize bits) with long | short
  · rw [compactNumber_of_long (Nat.le_of_lt long)]
    rcases holds with short | roomy | ⟨count, fourfold⟩
    · omega
    · refine ⟨64 * compactMantissa bits, compactSize bits - 4, by omega, ?_⟩
      have place : 256 ^ (compactSize bits - 3) = 4 * (64 * 256 ^ (compactSize bits - 4)) := by
        rw [← Nat.mul_assoc, ← Nat.pow_succ']
        congr 1
        omega
      rw [place, Nat.mul_left_comm, Nat.mul_div_cancel_left _ (by decide), Nat.mul_left_comm,
        Nat.mul_assoc]
    · refine ⟨count, compactSize bits - 3, by omega, ?_⟩
      rw [fourfold, Nat.mul_assoc, Nat.mul_div_cancel_left _ (by decide)]
  · rw [compactNumber_of_short short]
    have smaller := Nat.div_le_self (compactMantissa bits) (256 ^ (3 - compactSize bits))
    exact ⟨_, 0, by omega, (Nat.mul_one _).symm⟩

/-- A mantissa with bytes behind it that is at most a quarter of a large one is at most the
quarter of the large mantissa, rounded down, with the bytes that are behind that. -/
theorem scaled_le_quarter {mantissa exponent large place : Nat} (small : mantissa < 2 ^ 23)
    (isLarge : 2 ^ 17 ≤ large) (below : 4 * (mantissa * 256 ^ exponent) ≤ large * 256 ^ place) :
    mantissa * 256 ^ exponent ≤ large / 4 * 256 ^ place := by
  rcases Nat.lt_or_ge exponent place with lower | higher
  · -- With fewer bytes behind it, no mantissa comes near the quarter.
    have bytes : 256 ^ exponent * 256 ≤ 256 ^ place := by
      rw [← Nat.pow_succ]
      exact Nat.pow_le_pow_right (by decide) lower
    calc mantissa * 256 ^ exponent
      _ ≤ 2 ^ 15 * 256 * 256 ^ exponent := Nat.mul_le_mul_right _ (by omega)
      _ = 2 ^ 15 * (256 ^ exponent * 256) := by rw [Nat.mul_assoc, Nat.mul_comm 256]
      _ ≤ large / 4 * 256 ^ place := Nat.mul_le_mul (by omega) bytes
  · -- With as many bytes or more, it is a multiple of the same power.
    obtain ⟨count, multiple⟩ : 256 ^ place ∣ mantissa * 256 ^ exponent :=
      (Nat.pow_dvd_pow 256 higher).mul_left mantissa
    rw [Nat.mul_comm _ count] at multiple
    rw [multiple, ← Nat.mul_assoc] at below
    have bounded : 4 * count ≤ large :=
      Nat.le_of_mul_le_mul_right below (Nat.pow_pos (by decide))
    rw [multiple]
    exact Nat.mul_le_mul_right _ (by omega)

/-- Where the mantissa does not hold the quarter, two bits are cut off. -/
theorem isGreatest_of_not_holdsQuarter (nonzero : ofBits bits ≠ 0)
    (cut : ¬HoldsQuarter bits) :
    IsGreatest (quarters (ofBits bits))
      (compactMantissa bits / 4 * 256 ^ (compactSize bits - 3)) := by
  rw [HoldsQuarter, not_or, not_or] at cut
  obtain ⟨long, large, _⟩ := cut
  have isNumber := toNat_ofBits_of_long nonzero (by omega)
  have signless := (toNat_ofBits_of_ne_zero nonzero).1
  have inRange := (ofBits bits).isLt
  have positive : 0 < 256 ^ (compactSize bits - 3) := Nat.pow_pos (by decide)
  have quarter_le : 4 * (compactMantissa bits / 4 * 256 ^ (compactSize bits - 3)) ≤
      (ofBits bits).toNat := by
    rw [isNumber, ← Nat.mul_assoc]
    exact Nat.mul_le_mul_right _ (Nat.mul_div_le _ _)
  refine ⟨⟨?_, quarter_le, ?_⟩, ?_⟩
  · exact Nat.mul_ne_zero (by omega) (Nat.ne_of_gt positive)
  · exact (exists_ofBits_iff (by omega)).mpr
      ⟨compactMantissa bits / 4, compactSize bits - 3, by omega, rfl⟩
  · rintro number ⟨_, below, other, isOther⟩
    obtain ⟨mantissa, exponent, small, scaled⟩ := exists_scale other
    rw [← isOther, scaled, isNumber] at below
    rw [← isOther, scaled]
    exact scaled_le_quarter small (Nat.le_of_not_lt large) below

theorem HoldsQuarter.isGreatest (holds : HoldsQuarter bits) (enough : 4 ≤ (ofBits bits).toNat) :
    IsGreatest (quarters (ofBits bits)) ((ofBits bits).toNat / 4) := by
  refine ⟨⟨by omega, Nat.mul_div_le _ _, holds.exists_ofBits⟩, ?_⟩
  rintro number ⟨_, below, _⟩
  omega

/-- Every target that is at least four has a greatest quarter. -/
theorem exists_isGreatest_iff :
    (∃ number, IsGreatest (quarters (ofBits bits)) number) ↔ 4 ≤ (ofBits bits).toNat := by
  constructor
  · rintro ⟨number, ⟨nonzero, below, _⟩, _⟩
    omega
  · intro enough
    by_cases holds : HoldsQuarter bits
    · exact ⟨_, holds.isGreatest enough⟩
    · have nonzero : ofBits bits ≠ 0 := toNat_pos_iff.mp (by omega)
      exact ⟨_, isGreatest_of_not_holdsQuarter nonzero holds⟩

/-- The greatest quarter is within bounds exactly if it is the quarter itself. -/
theorem mayBecome_iff_of_isGreatest
    (greatest : IsGreatest (quarters (ofBits bits)) new.toNat) :
    (ofBits bits).mayBecome new = true ↔ HoldsQuarter bits := by
  obtain ⟨positive, below, _⟩ := greatest.1
  have newNonzero : new ≠ 0 := toNat_pos_iff.mp (Nat.pos_of_ne_zero positive)
  have oldNonzero : ofBits bits ≠ 0 := toNat_pos_iff.mp (by omega)
  rw [mayBecome_iff]
  constructor
  · rintro ⟨_, _, lower, _⟩
    by_contra cut
    have same := (isGreatest_of_not_holdsQuarter oldNonzero cut).unique greatest
    rw [HoldsQuarter, not_or, not_or, Nat.dvd_iff_mod_eq_zero] at cut
    obtain ⟨long, _, uneven⟩ := cut
    have isNumber := toNat_ofBits_of_long oldNonzero (by omega)
    have place : 256 ^ 1 ≤ 256 ^ (compactSize bits - 3) :=
      Nat.pow_le_pow_right (by decide) (by omega)
    -- The bits that are cut off stand for at least one whole place.
    have remainder := Nat.mul_le_mul (Nat.one_le_iff_ne_zero.mpr uneven) place
    rw [← Nat.div_add_mod (compactMantissa bits) 4, Nat.add_mul, Nat.mul_assoc, same] at isNumber
    omega
  · intro holds
    refine ⟨oldNonzero, newNonzero, ?_, by omega⟩
    exact greatest.2 ⟨by omega, Nat.mul_div_le _ _, holds.exists_ofBits⟩

end Target

/-! ## Retargets -/

namespace EpochRelay

/-- What a retarget asks for, but for the bounds of the new target. -/
structure Proposes (relay : EpochRelay) (submitter : String) (bytes : Bytes)
    (current : EpochRecord) (headers : List Header) (boundary : Header) : Prop where
  ready : relay.epochs.getLast? = some current
  allowed : relay.MaySubmit submitter
  decoded : Header.decodeChain bytes = .ok headers
  counted : headers.length = 2 * relay.proofLength
  old : ∀ header ∈ headers.take relay.proofLength, header.target = current.target
  at_boundary : headers[relay.proofLength]? = some boundary
  new : ∀ header ∈ headers.drop relay.proofLength, header.target = boundary.target
  changed : boundary.target ≠ current.target
  later : current.timestamp < boundary.time
  valid : ∃ validated, ValidatedChain.ofHeaders relay.constants
    ⟨current.difficulty, boundary.difficulty relay.constants⟩ headers = .ok validated

variable {relay : EpochRelay} {submitter : String} {bytes : Bytes} {current : EpochRecord}
  {headers : List Header} {boundary : Header}

theorem Proposes.taken_iff
    (proposes : relay.Proposes submitter bytes current headers boundary) :
    (∃ answer, (relay.step (.retarget submitter bytes)).2 = .ok answer) ↔
      current.target.mayBecome boundary.target = true := by
  obtain ⟨ready, allowed, decoded, counted, old, at_boundary, new, changed, later, valid⟩ :=
    proposes
  constructor
  · rintro ⟨answer, answered⟩
    obtain ⟨difficulty, retargeted, _⟩ := step_retarget_eq_ok_iff.mp (Prod.ext rfl answered)
    obtain ⟨record, others, opening, last, _, read, _, straddles, _⟩ :=
      retarget_eq_ok_iff.mp retargeted
    obtain rfl : current = record := Option.some.inj (ready.symm.trans last)
    obtain rfl : headers = others := Except.ok.inj (decoded.symm.trans read)
    obtain rfl : boundary = opening :=
      Option.some.inj (at_boundary.symm.trans straddles.at_boundary)
    exact straddles.clamped
  · intro clamped
    have straddles : Straddles relay.proofLength current headers boundary :=
      ⟨old, at_boundary, new, changed, clamped, later⟩
    have retargeted := retarget_eq_ok_iff.mpr
      ⟨current, headers, boundary, ready, allowed, decoded, counted, straddles, valid, rfl, rfl⟩
    exact ⟨_, congrArg Prod.snd (step_retarget_eq_ok_iff.mpr ⟨_, retargeted, rfl⟩)⟩

end EpochRelay

/-! ## Batches -/

namespace WindowRelay

/-- What is asked of a batch across a boundary into an epoch that the window has not
entered yet, but for the bounds of the new target. -/
structure Proposes (relay : WindowRelay) (chain : TrackedChain) (ancestor : Height)
    (bytes : Bytes) (base : EpochStart) (before : List Header) (boundary : Header)
    (after : List Header) : Prop where
  tracked : relay.chain = some chain
  decoded : Header.decodeChain bytes = .ok (before ++ boundary :: after)
  counted : (before ++ boundary :: after).length = batchSize
  joins : ∃ first, before.head? = some first ∧
    relay.ring.recorded? ancestor = some first.hash
  higher : chain.tip.toNat < ancestor.toNat + 6
  fits : ancestor.toNat + 6 < 2 ^ 32
  begins : startFor chain ancestor = .ok base
  at_boundary : ancestor.toNat + before.length = Epoch.nextStart ancestor
  ahead : chain.epochStart.height.toNat ≠ Epoch.nextStart ancestor
  old : ∀ header ∈ before, header.target = base.header.target
  new : ∀ header ∈ after, header.target = boundary.target
  linked : Header.Linked (before ++ boundary :: after)
  works : ∀ header ∈ before ++ boundary :: after, header.hasValidWork = true

variable {relay : WindowRelay} {chain : TrackedChain} {ancestor height : Height}
  {bytes : Bytes} {current base start : EpochStart} {headers before after : List Header}
  {boundary : Header}

theorem Follows.allowed (follows : Follows current base ancestor headers (some start)) :
    mayOpenEpoch current base start.height start.header = true := by
  cases follows with
  | crosses _ _ allowed => exact allowed

theorem mayOpenEpoch_of_ahead (ahead : current.height.toNat ≠ height.toNat) :
    mayOpenEpoch current base height boundary =
      base.header.target.mayBecome boundary.target := by
  rw [mayOpenEpoch, if_neg]
  rintro rfl
  exact ahead rfl

/-- Into an epoch that was not entered yet a batch leads exactly if its target is within
bounds. -/
theorem exists_follows_iff
    (at_boundary : ancestor.toNat + before.length = Epoch.nextStart ancestor)
    (short : (before ++ boundary :: after).length ≤ 2016)
    (fits : ancestor.toNat + before.length < 2 ^ 32)
    (ahead : current.height.toNat ≠ Epoch.nextStart ancestor)
    (old : ∀ header ∈ before, header.target = base.header.target)
    (new : ∀ header ∈ after, header.target = boundary.target) :
    (∃ crossed, Follows current base ancestor (before ++ boundary :: after) crossed) ↔
      base.header.target.mayBecome boundary.target = true := by
  have next := Epoch.nextStart_eq ancestor
  constructor
  · rintro ⟨crossed, follows⟩
    have stands : (before ++ boundary :: after)[before.length]? = some boundary := by simp
    obtain ⟨start, rfl, place, rfl⟩ := follows.eq_some short (by omega) stands (by omega)
    have opens := follows.allowed
    rwa [mayOpenEpoch_of_ahead (by rwa [place, at_boundary])] at opens
  · intro clamped
    obtain ⟨height, isNext⟩ : ∃ height : Height, height.toNat = Epoch.nextStart ancestor :=
      ⟨_, UInt32.toNat_ofNat_of_lt' (at_boundary ▸ fits)⟩
    have opens : mayOpenEpoch current base height boundary = true := by
      rw [mayOpenEpoch_of_ahead (by rwa [isNext])]
      exact clamped
    have follows : Follows current base ancestor
        (before ++ (EpochStart.mk height boundary).header :: after) (some ⟨height, boundary⟩) :=
      .crosses isNext (at_boundary.trans isNext.symm) opens old new
    exact ⟨_, follows⟩

/-- A batch on a recorded block that leads above the tip is taken if its headers pass. -/
theorem exists_step_addHeaders_iff {first : Header} {added : List Header}
    (tracked : relay.chain = some chain)
    (decoded : Header.decodeChain bytes = .ok (first :: added))
    (counted : (first :: added).length = batchSize)
    (joins : relay.ring.recorded? ancestor = some first.hash)
    (higher : chain.tip.toNat < ancestor.toNat + 6) (fits : ancestor.toNat + 6 < 2 ^ 32) :
    (∃ answer, (relay.step (.addHeaders ancestor bytes)).2 = .ok answer) ↔
      ∃ crossed, checkHeaders relay.constants chain ancestor (first :: added) = .ok crossed := by
  constructor
  · rintro ⟨answer, answered⟩
    obtain ⟨taken, _⟩ := step_addHeaders_eq_ok_iff.mp (Prod.ext rfl answered)
    obtain ⟨other, _, _, _, crossed, known, read, _, _, _, _, passed, _⟩ :=
      addHeaders_eq_ok_iff.mp taken
    obtain rfl : chain = other := Option.some.inj (tracked.symm.trans known)
    rw [← Except.ok.inj (decoded.symm.trans read)] at passed
    exact ⟨crossed, passed⟩
  · rintro ⟨crossed, passed⟩
    obtain ⟨tip, leads⟩ : ∃ tip : Height, tip.toNat = ancestor.toNat + 6 :=
      ⟨_, UInt32.toNat_ofNat_of_lt' fits⟩
    have above : chain.tip < tip := by rwa [UInt32.lt_iff_toNat_lt, leads]
    have taken := addHeaders_eq_ok_iff.mpr ⟨chain, first, added, tip, crossed, tracked, decoded,
      counted, joins, Height.up?_eq_some_iff.mpr leads, above, passed, rfl⟩
    exact ⟨_, congrArg Prod.snd (step_addHeaders_eq_ok_iff.mpr ⟨taken, rfl⟩)⟩

theorem Proposes.taken_iff
    (proposes : relay.Proposes chain ancestor bytes base before boundary after) :
    (∃ answer, (relay.step (.addHeaders ancestor bytes)).2 = .ok answer) ↔
      base.header.target.mayBecome boundary.target = true := by
  obtain ⟨tracked, decoded, counted, ⟨first, isFirst, joins⟩, higher, fits, begins, at_boundary,
    ahead, old, new, linked, works⟩ := proposes
  have inside : before.length < batchSize := by
    rw [← counted, List.length_append, List.length_cons]
    omega
  rw [batchSize] at counted inside
  rw [← exists_follows_iff at_boundary (by omega) (by omega) ahead old new]
  obtain ⟨rest, rfl⟩ := List.head?_eq_some_iff.mp isFirst
  rw [List.cons_append] at decoded counted linked works ⊢
  rw [exists_step_addHeaders_iff tracked decoded counted joins higher fits]
  apply exists_congr
  intro crossed
  rw [checkHeaders_eq_ok_iff_follows (by rw [counted]; omega) (by rw [counted]; decide)]
  constructor
  · rintro ⟨governing, started, follows, _⟩
    obtain rfl : base = governing := Except.ok.inj (begins.symm.trans started)
    exact follows
  · intro follows
    exact ⟨base, begins, follows, linked, works⟩

end WindowRelay

/-! ## The greatest decrease -/

/-- The greatest quarter of a target that a header can declare is within bounds exactly
if the mantissa of the target holds its quarter.  A retarget and a batch that lead to this
greatest quarter, and are in order otherwise, are taken in that case and in no other. -/
theorem greatest_decreases_are_taken_iff (bits : UInt32) :
    ((∃ number, IsGreatest (Target.quarters (.ofBits bits)) number) ↔
        4 ≤ (Target.ofBits bits).toNat) ∧
      ∀ new : Target, IsGreatest (Target.quarters (.ofBits bits)) new.toNat →
        ((Target.ofBits bits).mayBecome new = true ↔ Target.HoldsQuarter bits) ∧
          (∀ (relay : EpochRelay) submitter bytes current headers boundary,
            relay.Proposes submitter bytes current headers boundary →
              current.target = .ofBits bits → boundary.target = new →
                ((∃ answer, (relay.step (.retarget submitter bytes)).2 = .ok answer) ↔
                  Target.HoldsQuarter bits)) ∧
          ∀ (relay : WindowRelay) chain ancestor bytes base before boundary after,
            relay.Proposes chain ancestor bytes base before boundary after →
              base.header.target = .ofBits bits → boundary.target = new →
                ((∃ answer, (relay.step (.addHeaders ancestor bytes)).2 = .ok answer) ↔
                  Target.HoldsQuarter bits) := by
  refine ⟨Target.exists_isGreatest_iff, ?_⟩
  intro new greatest
  have clamped_iff := Target.mayBecome_iff_of_isGreatest greatest
  refine ⟨clamped_iff, ?_, ?_⟩
  · intro relay submitter bytes current headers boundary proposes old isNew
    rw [proposes.taken_iff, old, isNew, clamped_iff]
  · intro relay chain ancestor bytes base before boundary after proposes old isNew
    rw [proposes.taken_iff, old, isNew, clamped_iff]

/-- A header with some target that nothing comes before. -/
def baseHeader (bits : UInt32) : Header :=
  ⟨1, .zero, .zero, 1, bits, 0⟩

/-- A header on top of it with a quarter of the easiest target, as far as the mantissa
holds it. -/
def fallenHeader (bits : UInt32) : Header :=
  ⟨1, (baseHeader bits).hash, .zero, 2, 0x201FFFFF, 2⟩

/-- Three blocks with some target and four with that lower one. -/
def fallingBlocks (bits : UInt32) : List Header :=
  WindowRelay.tower (baseHeader bits) [(bits, 2), (bits, 1), (0x201FFFFF, 8),
    (0x201FFFFF, 72), (0x201FFFFF, 31), (0x201FFFFF, 126)]

namespace EpochRelay

/-- A relay of the test network whose first epoch has some target. -/
def basedRelay (bits : UInt32) : EpochRelay :=
  testRelay.run [.genesis "governance" (baseHeader bits).encode 2016 1]

/-- A chain of the header of the first epoch and the lower one. -/
def fallingChain (bits : UInt32) : Bytes :=
  Header.encodeChain [baseHeader bits, fallenHeader bits]

theorem basedRelay_proposes :
    (basedRelay 0x207FFFFC).Proposes "anyone" (fallingChain 0x207FFFFC)
      ⟨1, .ofBits 0x207FFFFC, 1, 1⟩ [baseHeader 0x207FFFFC, fallenHeader 0x207FFFFC]
      (fallenHeader 0x207FFFFC) where
  ready := by decide +kernel
  allowed required := absurd required (by decide +kernel)
  decoded := Header.decodeChain_encodeChain _
  counted := by decide +kernel
  old := by decide +kernel
  at_boundary := by decide +kernel
  new := by decide +kernel
  changed := by decide +kernel
  later := by decide
  valid :=
    ⟨⟨(baseHeader 0x207FFFFC).hash, (fallenHeader 0x207FFFFC).hash, 2, 5⟩, by decide +kernel⟩

end EpochRelay

namespace WindowRelay

/-- A window of the test network with one block, three below a boundary. -/
def basedRelay (bits : UInt32) : WindowRelay :=
  testRelay.run [.genesis "governance" (baseHeader bits).encode (baseHeader bits).encode 2013]

theorem basedRelay_proposes :
    ∃ before boundary after, boundary.target = .ofBits 0x201FFFFF ∧
      (basedRelay 0x207FFFFC).Proposes ⟨2013, 2013, ⟨0, baseHeader 0x207FFFFC⟩, none⟩ 2013
        (Header.encodeChain (fallingBlocks 0x207FFFFC)) ⟨0, baseHeader 0x207FFFFC⟩
        before boundary after := by
  have split : fallingBlocks 0x207FFFFC = (fallingBlocks 0x207FFFFC).take 3 ++
      (fallingBlocks 0x207FFFFC)[3] :: (fallingBlocks 0x207FFFFC).drop 4 := by
    rw [← List.drop_eq_getElem_cons, List.take_append_drop]
  refine ⟨(fallingBlocks 0x207FFFFC).take 3, (fallingBlocks 0x207FFFFC)[3],
    (fallingBlocks 0x207FFFFC).drop 4, by decide +kernel, ?_⟩
  exact {
    tracked := by decide +kernel
    decoded := by rw [← split, Header.decodeChain_encodeChain]
    counted := by decide +kernel
    joins := ⟨baseHeader 0x207FFFFC, by decide +kernel, by decide +kernel⟩
    higher := by decide
    fits := by decide
    begins := by decide +kernel
    at_boundary := by decide +kernel
    ahead := by decide
    old := by decide +kernel
    new := by decide +kernel
    linked := by
      rw [← split, Header.Linked]
      decide +kernel
    works := by
      rw [← split]
      decide +kernel
  }

end WindowRelay

/-- The easiest target but for its last two bits may go down to a quarter. -/
theorem basedRelays_take_greatest_decrease :
    Target.HoldsQuarter 0x207FFFFC ∧
      IsGreatest (Target.quarters (.ofBits 0x207FFFFC)) (Target.ofBits 0x201FFFFF).toNat ∧
      (Target.ofBits 0x207FFFFC).mayBecome (.ofBits 0x201FFFFF) = true ∧
      (∃ answer, ((EpochRelay.basedRelay 0x207FFFFC).step
        (.retarget "anyone" (EpochRelay.fallingChain 0x207FFFFC))).2 = .ok answer) ∧
      ∃ answer, ((WindowRelay.basedRelay 0x207FFFFC).step
        (.addHeaders 2013 (Header.encodeChain (fallingBlocks 0x207FFFFC)))).2 = .ok answer := by
  have holds : Target.HoldsQuarter 0x207FFFFC := .inr (.inr (by decide))
  have greatest :
      IsGreatest (Target.quarters (.ofBits 0x207FFFFC)) (Target.ofBits 0x201FFFFF).toNat :=
    holds.isGreatest (by decide)
  obtain ⟨_, taken_iff⟩ := greatest_decreases_are_taken_iff 0x207FFFFC
  obtain ⟨clamped_iff, retarget_iff, addHeaders_iff⟩ := taken_iff _ greatest
  obtain ⟨before, boundary, after, target, proposes⟩ := WindowRelay.basedRelay_proposes
  refine ⟨holds, greatest, clamped_iff.mpr holds, ?_, ?_⟩
  · exact (retarget_iff _ _ _ _ _ _ EpochRelay.basedRelay_proposes rfl rfl).mpr holds
  · exact (addHeaders_iff _ _ _ _ _ _ _ _ proposes rfl target).mpr holds

/-- The easiest target may not go down to the greatest quarter that can be declared. -/
theorem basedRelays_refuse_greatest_decrease :
    Target.ofBits 0x207FFFFF ≠ 0 ∧
      IsGreatest (Target.quarters (.ofBits 0x207FFFFF)) (Target.ofBits 0x201FFFFF).toNat ∧
      (Target.ofBits 0x207FFFFF).mayBecome (.ofBits 0x201FFFFF) = false ∧
      ((EpochRelay.basedRelay 0x207FFFFF).step
        (.retarget "anyone" (EpochRelay.fallingChain 0x207FFFFF))).2 =
          .error (ConsensusError.wrongNewTarget 1) ∧
      ((WindowRelay.basedRelay 0x207FFFFF).step
        (.addHeaders 2013 (Header.encodeChain (fallingBlocks 0x207FFFFF)))).2 =
          .error (ConsensusError.wrongTarget 2016) := by
  have nonzero : Target.ofBits 0x207FFFFF ≠ 0 := by decide
  have cut : ¬Target.HoldsQuarter 0x207FFFFF := by
    rw [Target.HoldsQuarter]
    decide
  exact ⟨nonzero, Target.isGreatest_of_not_holdsQuarter nonzero cut, by decide, by decide +kernel,
    by decide +kernel⟩

end HeaderRelay
