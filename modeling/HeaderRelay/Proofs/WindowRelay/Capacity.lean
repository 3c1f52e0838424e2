import HeaderRelay.Proofs.WindowRelay.Completeness

/-!
# Windows of two sizes

Two windows with different numbers of slots put a block into different slots and hide it
at different times.  Nothing that they track depends on that.  What the smaller one takes
in, the larger one takes in too, and from then on the two differ only in how far back they
record the chain.

For proofs this is less clear: their headers are placed by the first hash that is
recorded, and the larger window may know the parent where the smaller one knows only the
first header.  If hashes tell all blocks apart, both lead to the same place.
-/

namespace HeaderRelay

theorem BestChain.Covers.mono {best : BestChain} {narrow wide number : Nat}
    (larger : narrow ≤ wide) (covered : best.Covers narrow number) :
    best.Covers wide number := by
  simp only [Covers, oldest] at covered ⊢
  omega

/-- A hash is recorded once, if hashes tell the blocks apart. -/
theorem Ring.Shows.height_eq {ring : Ring} {best : BestChain} {height other : Height}
    {hash : Hash} (shown : ring.Shows best) (unique : (best.blocks.map Header.hash).Nodup)
    (recorded : ring.recorded? height = some hash)
    (otherRecorded : ring.recorded? other = some hash) : other = height := by
  obtain ⟨_, block, found, same⟩ := shown.recorded?_eq_some_iff.mp recorded
  obtain ⟨_, otherBlock, otherFound, otherSame⟩ := shown.recorded?_eq_some_iff.mp otherRecorded
  exact UInt32.toNat_inj.mp
    (BestChain.number_eq_of_nodup unique found otherFound (otherSame.trans same.symm))

namespace WindowRelay

variable {relay small large next changed : WindowRelay} {chain : TrackedChain}
  {best : BestChain} {narrow wide position : Nat} {past calls : List Call} {call : Call}
  {first : Header} {rest : List Header} {start height : Height} {hash : Hash}

/-! ## Two windows in one run -/

/-- Whether windows of two capacities have gone through the same calls. -/
structure Abreast (narrow wide : Nat) (small large : WindowRelay) (past : List Call) :
    Prop where
  larger : narrow ≤ wide
  mirrorsSmall : small.Mirrors narrow past
  mirrorsLarge : large.Mirrors wide past
  constants : large.constants = small.constants
  governance : large.governance = small.governance
  chain : large.chain = small.chain

theorem abreast_create {constants : Network.Constants} {governance : String}
    (larger : narrow ≤ wide) (createdSmall : create narrow constants governance = .ok small)
    (createdLarge : create wide constants governance = .ok large) :
    Abreast narrow wide small large [] := by
  have mirrorsSmall := mirrors_create createdSmall
  have mirrorsLarge := mirrors_create createdLarge
  unfold create at createdSmall createdLarge
  split at createdSmall
  next => cases createdSmall
  next =>
    split at createdLarge
    next => cases createdLarge
    next =>
      cases createdSmall
      cases createdLarge
      exact ⟨larger, mirrorsSmall, mirrorsLarge, rfl, rfl, rfl⟩

namespace Abreast

theorem exists_best (abreast : Abreast narrow wide small large past)
    (tracked : small.chain = some chain) :
    ∃ best, BestChain.ofCalls past = some best ∧ Tracks chain best ∧
      small.ring.Shows best ∧ large.ring.Shows best := by
  obtain ⟨best, isBest, tracks, shownSmall⟩ := abreast.mirrorsSmall.shows tracked
  obtain ⟨_, same, _, shownLarge⟩ := abreast.mirrorsLarge.shows (abreast.chain.trans tracked)
  cases isBest.symm.trans same
  exact ⟨best, isBest, tracks, shownSmall, shownLarge⟩

theorem recorded? (abreast : Abreast narrow wide small large past)
    (recorded : small.ring.recorded? height = some hash) :
    large.ring.recorded? height = some hash := by
  cases tracked : small.chain with
  | none =>
      rw [abreast.mirrorsSmall.fresh tracked] at recorded
      cases recorded
  | some chain =>
      obtain ⟨best, _, _, shownSmall, shownLarge⟩ := abreast.exists_best tracked
      obtain ⟨covered, block⟩ := shownSmall.recorded?_eq_some_iff.mp recorded
      rw [abreast.mirrorsSmall.sized] at covered
      refine shownLarge.recorded?_eq_some_iff.mpr ⟨?_, block⟩
      rw [abreast.mirrorsLarge.sized]
      exact covered.mono abreast.larger

theorem isRecorded (abreast : Abreast narrow wide small large past)
    (recorded : small.isRecorded height hash = true) : large.isRecorded height hash = true :=
  isRecorded_iff.mpr (abreast.recorded? (isRecorded_iff.mp recorded))

theorem advance (abreast : Abreast narrow wide small large past)
    (succeeds : small.Succeeds call next) (stepped : large.step call = (changed, .ok .done))
    (constants : changed.constants = next.constants)
    (governance : changed.governance = next.governance) (chain : changed.chain = next.chain) :
    (large.step call).2 = .ok .done ∧
      Abreast narrow wide next (large.step call).1 (past ++ [call]) := by
  have answered : (large.step call).2 = .ok .done := by rw [stepped]
  have mirrorsSmall := abreast.mirrorsSmall.of_succeeds succeeds
  have mirrorsLarge := abreast.mirrorsLarge.of_succeeds (succeeds_of_step answered)
  rw [stepped] at mirrorsLarge ⊢
  exact ⟨rfl, abreast.larger, mirrorsSmall, mirrorsLarge, constants, governance, chain⟩

/-- A change that the smaller window accepts is made in both. -/
theorem of_succeeds (abreast : Abreast narrow wide small large past)
    (succeeds : small.Succeeds call next) (changes : call.isQuery = false) :
    (large.step call).2 = .ok .done ∧
      Abreast narrow wide next (large.step call).1 (past ++ [call]) := by
  cases succeeds with
  | @genesis caller epochStart tip height _ _ governed fresh decodedStart decodedTip agree =>
      have done := genesis_eq_ok_iff.mpr ⟨governed.trans abreast.governance.symm,
        abreast.chain.trans fresh, _, _, decodedStart, decodedTip, agree, rfl⟩
      have stepped : large.step (.genesis caller epochStart tip height) = (_, .ok .done) :=
        congrArg large.change done
      exact abreast.advance (.genesis governed fresh decodedStart decodedTip agree) stepped
        abreast.constants abreast.governance rfl
  | @addHeaders ancestor _ bytes _ _ _ _ tracked decoded counted found above higher passed =>
      have done := addHeaders_eq_ok_iff.mpr ⟨_, _, _, _, _, abreast.chain.trans tracked, decoded,
        counted, abreast.recorded? found, above, higher, abreast.constants ▸ passed, rfl⟩
      have stepped : large.step (.addHeaders ancestor bytes) = (_, .ok .done) :=
        congrArg large.change done
      exact abreast.advance (.addHeaders tracked decoded counted found above higher passed)
        stepped abreast.constants abreast.governance rfl
  | query asked => cases changes.symm.trans asked

/-- Changes that all succeed in the smaller window are all made in both. -/
theorem run (abreast : Abreast narrow wide small large past)
    (changes : ∀ call ∈ calls, call.isQuery = false)
    (succeed : ∀ result ∈ small.trace calls, ∃ answer, result.2 = .ok answer) :
    (∀ result ∈ large.trace calls, ∃ answer, result.2 = .ok answer) ∧
      Abreast narrow wide (small.run calls) (large.run calls) (past ++ calls) := by
  induction calls generalizing small large past with
  | nil =>
      rw [List.append_nil]
      exact ⟨nofun, abreast⟩
  | cons call rest ih =>
      obtain ⟨change, later⟩ := List.forall_mem_cons.mp changes
      obtain ⟨⟨_, answered⟩, others⟩ := List.forall_mem_cons.mp succeed
      obtain ⟨done, together⟩ := abreast.of_succeeds (succeeds_of_step answered) change
      obtain ⟨succeedLater, afterwards⟩ := ih together later others
      rw [List.append_cons]
      exact ⟨List.forall_mem_cons.mpr ⟨⟨_, done⟩, succeedLater⟩, afterwards⟩

end Abreast

/-! ## Places of proofs -/

theorem placeBy?_eq_some_iff (placed : relay.ring.IsPlaced) (shown : relay.ring.Shows best)
    (unique : (best.blocks.map Header.hash).Nodup) :
    relay.placeBy? position hash = some start ↔
      ∃ owner, relay.ring.recorded? owner = some hash ∧
        start.toNat + position = owner.toNat + 1 ∧ owner.toNat + 1 < 2 ^ 32 := by
  constructor
  · exact exists_owner_of_placeBy? placed
  · rintro ⟨owner, recorded, aligned, inRange⟩
    exact placeBy?_of_unique placed recorded
      (fun _ otherRecorded => shown.height_eq unique recorded otherRecorded) aligned inRange

namespace Abreast

section

variable (abreast : Abreast narrow wide small large past) (tracks : Tracks chain best)
  (shownSmall : small.ring.Shows best) (shownLarge : large.ring.Shows best)
  (unique : (best.blocks.map Header.hash).Nodup)
  (identified : ∀ block ∈ best.blocks, block.hash = first.hash → block = first)

include abreast tracks shownSmall shownLarge unique identified

/-- A parent that the larger window knows is no other than the smaller one goes by: either
it is the block below, or the smaller window shows all blocks and knows it too. -/
theorem place_eq_of_parent {other : Height} (found : small.place? first rest = some start)
    (atStart : small.ring.recorded? start = some first.hash)
    (parent : large.placeBy? 0 first.previous = some other) : other = start := by
  obtain ⟨owner, recorded, aligned, inRange⟩ :=
    (placeBy?_eq_some_iff abreast.mirrorsLarge.placed shownLarge unique).mp parent
  obtain ⟨coveredStart, block, stands, same⟩ := shownSmall.recorded?_eq_some_iff.mp atStart
  obtain rfl := identified block (BestChain.mem_of_at? stands) same
  obtain ⟨covered, lower, atOwner, isParent⟩ := shownLarge.recorded?_eq_some_iff.mp recorded
  obtain ⟨started, _⟩ := BestChain.at?_eq_some_iff.mp stands
  rcases Nat.eq_or_lt_of_le started with isGenesis | above
  · -- The smaller window shows genesis, so it shows the parent too, wherever that stands.
    obtain ⟨ownerStarted, _⟩ := BestChain.at?_eq_some_iff.mp atOwner
    have known : small.ring.recorded? owner = some block.previous := by
      refine shownSmall.recorded?_eq_some_iff.mpr ⟨⟨?_, covered.2⟩, lower, atOwner, isParent⟩
      exact (coveredStart.1.trans (Nat.le_of_eq isGenesis.symm)).trans ownerStarted
    have placed : small.place? block rest = some other := place?_of_parent
      ((placeBy?_eq_some_iff abreast.mirrorsSmall.placed shownSmall unique).mpr
        ⟨owner, known, aligned, inRange⟩)
    exact Option.some.inj (placed.symm.trans found)
  · -- The block below has the hash of the parent, and no other block has.
    have next : start.toNat = start.toNat - 1 + 1 := by omega
    have inside := BestChain.lt_above_of_at? stands
    obtain ⟨below, atBelow⟩ : ∃ below, best.at? (start.toNat - 1) = some below :=
      BestChain.exists_at? (by omega) (by omega)
    rw [next] at stands
    have linked := BestChain.previous_of_linked tracks.linked atBelow stands
    have := BestChain.number_eq_of_nodup unique atBelow atOwner (isParent.trans linked)
    rw [← UInt32.toNat_inj]
    omega

/-- Both windows place the headers of a proof alike, if the first of them is recorded where
the smaller one places it. -/
theorem place? (found : small.place? first rest = some start)
    (passed : start.toNat ≤ chain.tip.toNat → small.ring.recorded? start = some first.hash) :
    large.place? first rest = some start := by
  have ends := tracks.tip
  have placedSmall := abreast.mirrorsSmall.placed
  have placedLarge := abreast.mirrorsLarge.placed
  obtain ⟨position, hash, listed, hit⟩ := exists_placeBy? found
  obtain ⟨owner, recorded, aligned, inRange⟩ := exists_owner_of_placeBy? placedSmall hit
  rcases Nat.eq_zero_or_pos position with rfl | behind
  · obtain rfl : first.previous = hash := by simpa using listed
    exact place?_of_parent ((placeBy?_eq_some_iff placedLarge shownLarge unique).mpr
      ⟨owner, abreast.recorded? recorded, aligned, inRange⟩)
  · -- One of the headers is recorded, so the first does not come above the tip.
    obtain ⟨⟨_, known⟩, _⟩ := shownSmall.recorded?_eq_some_iff.mp recorded
    have atStart := passed (by omega)
    cases parent : large.placeBy? 0 first.previous with
    | none =>
        exact place?_of_first parent ((placeBy?_eq_some_iff placedLarge shownLarge unique).mpr
          ⟨start, abreast.recorded? atStart, rfl, by omega⟩)
    | some other =>
        obtain rfl := abreast.place_eq_of_parent tracks shownSmall shownLarge unique identified
          found atStart parent
        exact place?_of_parent parent

end

/-- Headers that continue the recorded chain of the smaller window continue that of the
larger one. -/
theorem checkAnchored (abreast : Abreast narrow wide small large past)
    (isBest : BestChain.ofCalls past = some best)
    (unique : (best.blocks.map Header.hash).Nodup)
    (identified : ∀ block ∈ best.blocks, block.hash = first.hash → block = first)
    (anchored : small.checkAnchored (first :: rest) = .ok ()) :
    large.checkAnchored (first :: rest) = .ok () := by
  obtain ⟨chain, start, tracked, found, passed⟩ := checkAnchored_eq_ok_iff.mp anchored
  obtain ⟨_, same, tracks, shownSmall, shownLarge⟩ := abreast.exists_best tracked
  cases isBest.symm.trans same
  have atStart : start.toNat ≤ chain.tip.toNat →
      small.ring.recorded? start = some first.hash := by
    intro below
    have recorded := passed 0 first rfl below
    rwa [Nat.add_zero, UInt32.ofNat_toNat, isRecorded_iff] at recorded
  refine checkAnchored_eq_ok_iff.mpr ⟨chain, start, abreast.chain.trans tracked,
    abreast.place? tracks shownSmall shownLarge unique identified found atStart, ?_⟩
  intro offset header listed below
  exact abreast.isRecorded (passed offset header listed below)

theorem epochDifficulties (abreast : Abreast narrow wide small large past) :
    large.epochDifficulties = small.epochDifficulties := by
  simp only [WindowRelay.epochDifficulties, tracked, abreast.chain, abreast.constants]

theorem verify (abreast : Abreast narrow wide small large past)
    (isBest : BestChain.ofCalls past = some best)
    (unique : (best.blocks.map Header.hash).Nodup) {proof : Proof} {headers : List Header}
    (decoded : proof.chain = .ok headers)
    (identified : Header.Identified (best.blocks ++ headers)) {config : VerifierConfig}
    {validated : ValidatedChain}
    (accepts : proof.verify small.anchor config = .ok validated) :
    proof.verify large.anchor config = .ok validated := by
  obtain ⟨first, rest, epochs, required, included, anchored, known, valid, shown⟩ :=
    Proof.verify_eq_ok_iff.mp accepts
  obtain ⟨_, same, _⟩ := Proof.requiredChain_eq_ok_iff.mp required
  obtain rfl : headers = first :: rest := Except.ok.inj (decoded.symm.trans same)
  have sameNetwork : large.anchor.constants = small.anchor.constants := abreast.constants
  rw [← sameNetwork] at valid shown
  refine Proof.verify_eq_ok_iff.mpr ⟨first, rest, epochs, required, included, ?_,
    abreast.epochDifficulties.trans known, valid, shown⟩
  refine abreast.checkAnchored isBest unique ?_ anchored
  intro block member sameHash
  exact identified block (List.mem_append_left _ member) first
    (List.mem_append_right _ List.mem_cons_self) sameHash

end Abreast

/-! ## Runs -/

/-- Whether a window agrees with a smaller one of the same best chain, except that it may
record more. -/
structure Widens (large small : WindowRelay) (chain : Option BestChain) : Prop where
  tracked : large.chain = small.chain
  height : large.height = small.height
  epochStart : large.epochStart = small.epochStart
  epochDifficulties : large.epochDifficulties = small.epochDifficulties
  recorded : ∀ height hash, small.isRecorded height hash = true →
    large.isRecorded height hash = true
  /-- A proof that the smaller window accepts is accepted with the same result, if hashes
  tell the blocks apart, and them from the headers of the proof. -/
  proofs : ∀ best, chain = some best → (best.blocks.map Header.hash).Nodup →
    ∀ proof headers, Proof.chain proof = .ok headers →
      Header.Identified (best.blocks ++ headers) →
        ∀ config validated, proof.verify small.anchor config = .ok validated →
          proof.verify large.anchor config = .ok validated

theorem Abreast.widens (abreast : Abreast narrow wide small large past) :
    large.Widens small (BestChain.ofCalls past) where
  tracked := abreast.chain
  height := by simp only [WindowRelay.height, WindowRelay.tracked, abreast.chain]
  epochStart := by simp only [WindowRelay.epochStart, WindowRelay.tracked, abreast.chain]
  epochDifficulties := abreast.epochDifficulties
  recorded _ _ recorded := abreast.isRecorded recorded
  proofs _ isBest unique _ _ decoded identified _ _ accepts :=
    abreast.verify isBest unique decoded identified accepts

theorem trace_append (relay : WindowRelay) (first second : List Call) :
    relay.trace (first ++ second) = relay.trace first ++ (relay.run first).trace second := by
  induction first generalizing relay with
  | nil => rfl
  | cons call rest ih => exact congrArg _ (ih _)

theorem exists_create {capacity : Nat} (roomy : 7 ≤ capacity) (constants : Network.Constants)
    (governance : String) : ∃ relay, create capacity constants governance = .ok relay :=
  ⟨_, dif_neg (Nat.not_lt.mpr roomy)⟩

/-- Changes that all succeed in a window all succeed in one with more slots.  After each of
them both track the same chain, the larger window records whatever the smaller one does, and
it accepts every proof that the smaller one accepts. -/
theorem capacity_only_bounds_history (roomy : 7 ≤ narrow) (larger : narrow ≤ wide)
    (constants : Network.Constants) (governance : String) :
    ∃ small large, create narrow constants governance = .ok small ∧
      create wide constants governance = .ok large ∧
      ∀ calls, (∀ call ∈ calls, call.isQuery = false) →
        (∀ result ∈ small.trace calls, ∃ answer, result.2 = .ok answer) →
          (∀ result ∈ large.trace calls, ∃ answer, result.2 = .ok answer) ∧
            ∀ past, past <+: calls →
              (large.run past).Widens (small.run past) (BestChain.ofCalls past) := by
  obtain ⟨small, createdSmall⟩ := exists_create roomy constants governance
  obtain ⟨large, createdLarge⟩ := exists_create (roomy.trans larger) constants governance
  refine ⟨small, large, createdSmall, createdLarge, ?_⟩
  intro calls changes succeed
  have abreast := abreast_create larger createdSmall createdLarge
  refine ⟨(abreast.run changes succeed).1, ?_⟩
  rintro past ⟨later, rfl⟩
  rw [trace_append] at succeed
  exact (abreast.run (fun call member => changes call (List.mem_append_left _ member))
    (fun result member => succeed result (List.mem_append_left _ member))).2.widens

/-- Genesis and two batches, of which the second adds one block only. -/
def growingBlocks : List Header :=
  stack (.easy .zero 0) [2, 1, 0, 0, 0, 2, 0]

def growingCalls : List Call :=
  let block := Header.easy .zero 0
  [.genesis "governance" block.encode block.encode 1,
    .addHeaders 1 (Header.encodeChain (growingBlocks.take 7)),
    .addHeaders 2 (Header.encodeChain (growingBlocks.drop 1))]

/-- A relay that remembers twice as many blocks as the smallest one. -/
def doubledRelay : WindowRelay :=
  { testRelay with ring := .empty 14 (by decide) }

/-- Both windows take in all blocks, and the smaller one accepts a proof that begins with its
oldest block. -/
theorem testRelay_grows :
    (testRelay.trace growingCalls).map Prod.snd = [.ok .done, .ok .done, .ok .done] ∧
      (testRelay.run growingCalls).range = .ok (2, 8) ∧
      (doubledRelay.run growingCalls).range = .ok (1, 8) ∧
      BestChain.ofCalls growingCalls = some ⟨1, growingBlocks⟩ ∧
      (growingBlocks.map Header.hash).map (fun hash => hash.bytes.headD 0) =
        [192, 77, 181, 44, 32, 228, 147, 148] ∧
      (Proof.sole ((growingBlocks.drop 1).take 2)).verify
        (testRelay.run growingCalls).anchor ⟨2, true⟩ =
          .ok (ValidatedChain.summary Network.regtest.constants growingBlocks[1]
            [growingBlocks[2]]) := by
  decide +kernel

theorem nodup_growingBlocks : (growingBlocks.map Header.hash).Nodup := by
  obtain ⟨_, _, _, _, firstBytes, _⟩ := testRelay_grows
  apply List.Nodup.of_map (fun hash => hash.bytes.headD 0)
  rw [firstBytes]
  decide

theorem identified_growingBlocks :
    Header.Identified (growingBlocks ++ (growingBlocks.drop 1).take 2) := by
  have listed : ∀ header ∈ growingBlocks ++ (growingBlocks.drop 1).take 2,
      header ∈ growingBlocks := by
    intro header member
    rcases List.mem_append.mp member with block | shown
    · exact block
    · exact List.mem_of_mem_drop (List.mem_of_mem_take shown)
  intro left leftMember right rightMember same
  exact List.inj_on_of_nodup_map nodup_growingBlocks (listed left leftMember)
    (listed right rightMember) same

/-- A proof that begins with the oldest block of the smaller window is accepted in both. The
larger one places it by its parent. -/
theorem doubledRelay_widens_testRelay :
    let proof := Proof.sole ((growingBlocks.drop 1).take 2)
    (testRelay.run growingCalls).range = .ok (2, 8) ∧
      (doubledRelay.run growingCalls).range = .ok (1, 8) ∧
      (∀ result ∈ doubledRelay.trace growingCalls, ∃ answer, result.2 = .ok answer) ∧
      (doubledRelay.run growingCalls).Widens (testRelay.run growingCalls)
        (some ⟨1, growingBlocks⟩) ∧
      ∃ validated,
        proof.verify (testRelay.run growingCalls).anchor ⟨2, true⟩ = .ok validated ∧
          proof.verify (doubledRelay.run growingCalls).anchor ⟨2, true⟩ = .ok validated := by
  obtain ⟨small, large, createdSmall, createdLarge, widens⟩ :=
    capacity_only_bounds_history (Nat.le_refl 7) (by decide : 7 ≤ 14) Network.regtest.constants
      "governance"
  have createdTest : create 7 Network.regtest.constants "governance" = .ok testRelay := rfl
  have createdDoubled : create 14 Network.regtest.constants "governance" = .ok doubledRelay := rfl
  obtain rfl := Except.ok.inj (createdTest.symm.trans createdSmall)
  obtain rfl := Except.ok.inj (createdDoubled.symm.trans createdLarge)
  obtain ⟨answers, range, doubledRange, isBest, _, accepts⟩ := testRelay_grows
  have changes : ∀ call ∈ growingCalls, call.isQuery = false := by
    simp [growingCalls, Call.isQuery]
  have succeed : ∀ result ∈ testRelay.trace growingCalls, ∃ answer, result.2 = .ok answer := by
    intro result member
    have answered : result.2 ∈ (testRelay.trace growingCalls).map Prod.snd :=
      List.mem_map_of_mem member
    rw [answers] at answered
    exact ⟨.done, by simpa using answered⟩
  obtain ⟨succeedDoubled, grown⟩ := widens growingCalls changes succeed
  have whole := grown growingCalls (List.prefix_refl _)
  rw [isBest] at whole
  have decoded : (Proof.sole ((growingBlocks.drop 1).take 2)).chain =
      .ok ((growingBlocks.drop 1).take 2) :=
    Header.decodeChain_encodeChain _
  refine ⟨range, doubledRange, succeedDoubled, whole, _, accepts, ?_⟩
  exact whole.proofs _ rfl nodup_growingBlocks _ _ decoded identified_growingBlocks _ _ accepts

end WindowRelay

end HeaderRelay
