import HeaderRelay.Proofs.Height
import HeaderRelay.Proofs.WindowRelay.Operations

/-!
# Which targets headers must carry

The targets of headers at successive heights are checked by walking up along
them.  Two epoch boundaries are 2016 blocks apart, so a list that is not longer
meets at most one, and then the walk can be said without a walk: the headers up
to the boundary carry the target in force, and those from the boundary on carry
the target of the header that stands there.

Headers with such targets always have difficulties that pass.  So a chain of them
is valid exactly when it is linked and has valid work.
-/

namespace HeaderRelay

namespace Epoch

/-- The first height above a height at which an epoch begins. -/
def nextStart (height : Height) : Nat :=
  (height.toNat / length + 1) * length

theorem startsAt_iff {height : Height} : startsAt height = true ↔ height.toNat % 2016 = 0 :=
  decide_eq_true_iff

theorem nextStart_eq (height : Height) :
    nextStart height = height.toNat - height.toNat % 2016 + 2016 := by
  simp only [nextStart, length]
  omega

theorem toNat_startOf (height : Height) :
    (startOf height).toNat = height.toNat - height.toNat % 2016 :=
  Height.toNat_down height _

end Epoch

namespace WindowRelay

variable {chain : TrackedChain} {current base : EpochStart} {first height : Height}
  {offset : Nat} {met crossed : Option EpochStart} {header : Header} {headers : List Header}

/-! ## The walk -/

theorem followTargets_cons (inRange : height.toNat = first.toNat + offset) :
    followTargets current base first offset met (header :: headers) =
      if 0 < offset ∧ Epoch.startsAt height = true then
        if mayOpenEpoch current (met.getD base) height header = true then
          followTargets current base first (offset + 1) (some ⟨height, header⟩) headers
        else .error (ConsensusError.wrongTarget height)
      else if header.target = (met.getD base).header.target then
        followTargets current base first (offset + 1) met headers
      else .error (ConsensusError.wrongTarget height) := by
  rw [followTargets, Height.up?_eq_some_iff.mpr inRange]
  simp only [Bool.and_eq_true, decide_eq_true_eq]

/-- A list is walked along in two parts, the second from where the first leads. -/
theorem followTargets_append {before after : List Header} :
    followTargets current base first offset met (before ++ after) =
      followTargets current base first offset met before >>= fun reached =>
        followTargets current base first (offset + before.length) reached after := by
  induction before generalizing offset met with
  | nil => rfl
  | cons header rest ih =>
      rw [List.cons_append, List.length_cons]
      have count : offset + (rest.length + 1) = offset + 1 + rest.length := by omega
      simp only [followTargets, ih, count]
      cases first.up? offset with
      | none => rfl
      | some height => dsimp only; split <;> split <;> rfl

/-- Between two boundaries the walk only compares targets. -/
theorem followTargets_eq_ok_iff_of_within
    (fits : first.toNat + offset + headers.length ≤ 2 ^ 32)
    (within : ∀ index, 0 < offset + index → index < headers.length →
      (first.toNat + offset + index) % 2016 ≠ 0) :
    followTargets current base first offset met headers = .ok crossed ↔
      (∀ header ∈ headers, header.target = (met.getD base).header.target) ∧ met = crossed := by
  induction headers generalizing offset with
  | nil => simp [followTargets]
  | cons header rest ih =>
      rw [List.length_cons] at fits within
      have inRange : (UInt32.ofNat (first.toNat + offset)).toNat = first.toNat + offset :=
        UInt32.toNat_ofNat_of_lt' (by simp only [UInt32.size]; omega)
      have noBoundary : ¬(0 < offset ∧
          Epoch.startsAt (UInt32.ofNat (first.toNat + offset)) = true) := by
        intro opening
        rw [Epoch.startsAt_iff, inRange] at opening
        exact within 0 opening.1 (by omega) opening.2
      have further := @ih (offset + 1) (by omega) (by
        intro index _ inside
        have := within (index + 1) (by omega) (by omega)
        rwa [show first.toNat + (offset + 1) + index = first.toNat + offset + (index + 1) by
          omega])
      rw [followTargets_cons inRange, if_neg noBoundary, List.forall_mem_cons]
      split
      next same => rw [further, and_iff_right same]
      next other => simp [other]

/-! ## What passes -/

/-- Whether headers at successive heights carry targets that they may, and into
which epoch they lead. -/
inductive Follows (current base : EpochStart) (first : Height) :
    List Header → Option EpochStart → Prop where
  /-- All of them are in the epoch of the first. -/
  | within {headers : List Header}
      (inside : first.toNat + headers.length ≤ Epoch.nextStart first)
      (targets : ∀ header ∈ headers, header.target = base.header.target) :
      Follows current base first headers none
  /-- One of them stands at the next boundary. -/
  | crosses {before after : List Header} {start : EpochStart}
      (boundary : start.height.toNat = Epoch.nextStart first)
      (reached : first.toNat + before.length = start.height.toNat)
      (allowed : mayOpenEpoch current base start.height start.header = true)
      (old : ∀ header ∈ before, header.target = base.header.target)
      (new : ∀ header ∈ after, header.target = start.header.target) :
      Follows current base first (before ++ start.header :: after) (some start)

theorem followTargets_eq_ok_iff (fits : first.toNat + headers.length ≤ 2 ^ 32)
    (short : headers.length ≤ 2016) :
    followTargets current base first 0 none headers = .ok crossed ↔
      Follows current base first headers crossed := by
  have next := Epoch.nextStart_eq first
  by_cases inside : first.toNat + headers.length ≤ Epoch.nextStart first
  · rw [followTargets_eq_ok_iff_of_within fits (by intro index _ below; omega)]
    constructor
    · intro passed
      cases passed.2
      exact .within inside passed.1
    · intro follows
      cases follows with
      | within _ targets => exact ⟨targets, rfl⟩
      | crosses boundary reached =>
          rw [List.length_append, List.length_cons] at inside
          omega
  · obtain ⟨opening, stands⟩ : ∃ opening,
        headers[Epoch.nextStart first - first.toNat]? = some opening :=
      ⟨_, List.getElem?_eq_getElem (by omega)⟩
    have inRange : (UInt32.ofNat (Epoch.nextStart first)).toNat = Epoch.nextStart first :=
      UInt32.toNat_ofNat_of_lt' (by simp only [UInt32.size]; omega)
    have boundary : Epoch.startsAt (UInt32.ofNat (Epoch.nextStart first)) = true := by
      rw [Epoch.startsAt_iff, inRange]
      omega
    obtain ⟨before, after, rfl, counted⟩ := Header.exists_append_of_getElem? stands
    have reached : first.toNat + before.length = Epoch.nextStart first := by omega
    rw [List.length_append, List.length_cons] at fits short
    rw [followTargets_append, Checks.bind_eq_ok_iff]
    simp only [Nat.zero_add]
    constructor
    · intro passed
      obtain ⟨_, walked, opened⟩ := passed
      obtain ⟨old, rfl⟩ :=
        (followTargets_eq_ok_iff_of_within (by omega) (by intro index _ below; omega)).mp walked
      rw [followTargets_cons (inRange.trans (by omega)), if_pos ⟨by omega, boundary⟩] at opened
      split at opened
      next allowed =>
        obtain ⟨new, rfl⟩ := (followTargets_eq_ok_iff_of_within (by omega)
          (by intro index _ below; omega)).mp opened
        rw [Option.getD_some] at new
        exact .crosses inRange (reached.trans inRange.symm) allowed old new
      next => cases opened
    · intro follows
      generalize whole : before ++ opening :: after = headers at follows
      cases follows with
      | within inside =>
          rw [← whole, List.length_append, List.length_cons] at inside
          omega
      | @crosses _ _ start there met allowed old new =>
          obtain ⟨rfl, same⟩ := List.append_inj whole (by omega)
          obtain ⟨rfl, rfl⟩ := List.cons.inj same
          have opens : Epoch.startsAt start.height = true := by
            rw [Epoch.startsAt_iff]
            omega
          refine ⟨none, ?_, ?_⟩
          · exact (followTargets_eq_ok_iff_of_within (by omega)
              (by intro index _ below; omega)).mpr ⟨old, rfl⟩
          · rw [followTargets_cons (there.trans reached.symm), if_pos ⟨by omega, opens⟩,
              Option.getD_none, if_pos allowed]
            exact (followTargets_eq_ok_iff_of_within (by omega)
              (by intro index _ below; omega)).mpr ⟨new, rfl⟩

/-- The difficulties of headers that carry such targets pass. -/
theorem Follows.admits {constants : Network.Constants}
    (follows : Follows current base first headers crossed) :
    EpochDifficulties.Admits constants ⟨base.header.difficulty constants,
      (crossed.getD base).header.difficulty constants⟩ headers := by
  right
  cases follows with
  | within _ targets =>
      refine ⟨headers.map (Header.difficulty constants), [], by simp, ?_, by simp⟩
      rw [List.forall_mem_map]
      intro header member
      simp only [Header.difficulty, targets header member]
  | @crosses before after start _ _ _ old new =>
      refine ⟨before.map (Header.difficulty constants),
        (start.header :: after).map (Header.difficulty constants), by simp, ?_, ?_⟩
      · rw [List.forall_mem_map]
        intro header member
        simp only [Header.difficulty, old header member]
      · rw [List.forall_mem_map, List.forall_mem_cons]
        refine ⟨rfl, ?_⟩
        intro header member
        simp only [Header.difficulty, Option.getD_some, new header member]

/-- The target at every height: below the boundary the one in force at first, and
from there on that of the epoch that the headers lead into. -/
theorem Follows.target (follows : Follows current base first headers crossed)
    {position : Nat} (listed : headers[position]? = some header) :
    header.target =
      (if first.toNat + position < Epoch.nextStart first then base
        else crossed.getD base).header.target := by
  cases follows with
  | within inside targets =>
      rw [Option.getD_none, ite_self]
      exact targets header (List.mem_of_getElem? listed)
  | crosses boundary reached _ old new =>
      split
      next below =>
        rw [List.getElem?_append_left (by omega)] at listed
        exact old header (List.mem_of_getElem? listed)
      next =>
        rw [List.getElem?_append_right (by omega)] at listed
        rcases List.mem_cons.mp (List.mem_of_getElem? listed) with rfl | member
        · rfl
        · exact new header member

/-- The epoch start that is met is one of the headers. -/
theorem Follows.listed {start : EpochStart}
    (follows : Follows current base first headers (some start)) :
    headers[start.height.toNat - first.toNat]? = some start.header := by
  cases follows with
  | crosses _ reached =>
      rw [← reached, Nat.add_sub_cancel_left]
      exact List.getElem?_append_right (Nat.le_refl _) |>.trans (by simp)

/-! ## Valid headers -/

/-- The tracked epoch start that counts at a height is the current one, or the
previous one below it. -/
theorem startFor_eq_ok_iff :
    startFor chain height = .ok base ↔
      (chain.epochStart.height ≤ height ∧ chain.epochStart = base) ∨
        (height < chain.epochStart.height ∧ chain.previousEpochStart = some base ∧
          base.height ≤ height) := by
  unfold startFor
  split
  next reached => simp [reached, UInt32.not_lt.mpr reached]
  next early =>
    simp only [early, UInt32.not_le.mp early, false_and, false_or, true_and]
    cases chain.previousEpochStart with
    | none => simp
    | some previous =>
        simp only [Option.some.injEq]
        split
        next reached =>
          rw [Except.ok.injEq]
          exact ⟨fun same => ⟨same, same ▸ reached⟩, fun found => found.1⟩
        next older =>
          simp only [reduceCtorEq, false_iff, not_and]
          intro same
          exact same ▸ older

theorem checkHeaders_eq_ok_iff_follows {constants : Network.Constants} {rest : List Header}
    (fits : first.toNat + (header :: rest).length ≤ 2 ^ 32)
    (short : (header :: rest).length ≤ 2016) :
    checkHeaders constants chain first (header :: rest) = .ok crossed ↔
      ∃ base, startFor chain first = .ok base ∧
        Follows chain.epochStart base first (header :: rest) crossed ∧
        Header.Linked (header :: rest) ∧
        ∀ block ∈ header :: rest, block.hasValidWork = true := by
  rw [checkHeaders_eq_ok_iff]
  simp only [followTargets_eq_ok_iff fits short, ValidatedChain.ofHeaders_eq_ok_iff]
  apply exists_congr
  intro base
  apply and_congr_right
  intro _
  apply and_congr_right
  intro follows
  constructor
  · intro valid
    obtain ⟨_, linked, works, _⟩ := valid
    exact ⟨linked, works⟩
  · intro valid
    exact ⟨_, valid.1, valid.2, follows.admits, rfl⟩

end WindowRelay

end HeaderRelay
