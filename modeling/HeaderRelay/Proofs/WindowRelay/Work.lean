import HeaderRelay.Proofs.WindowRelay.Batches

/-!
# The work of recorded blocks

Nobody checks the work of the block that genesis records.  Batches are checked with
their first header, which stands for a block that is recorded already, and the first
batch of all can only begin at genesis.  So once there is a second block, every
block has valid work, as long as no other header with the same hash was submitted
in the place of one.
-/

namespace HeaderRelay

/-- Whether hashes tell headers apart. -/
def Header.Identified (headers : List Header) : Prop :=
  ∀ left ∈ headers, ∀ right ∈ headers, left.hash = right.hash → left = right

namespace WindowRelay

variable {chain : TrackedChain} {best : BestChain} {ancestor tip : Height} {base : EpochStart}
  {crossed : Option EpochStart} {first : Header} {added : List Header} {past : List Call}
  {bytes : Bytes}

/-- The headers that a call submits to be recorded. -/
def Call.headers : Call → List Header
  | .genesis _ opening last _ =>
      (Header.decode opening).toOption.toList ++ (Header.decode last).toOption.toList
  | .addHeaders _ batch => (Header.decodeChain batch).toOption.getD []
  | _ => []

/-- The headers that calls submit to be recorded. -/
def submitted (calls : List Call) : List Header :=
  calls.flatMap Call.headers

@[simp] theorem submitted_concat (past : List Call) (call : Call) :
    submitted (past ++ [call]) = submitted past ++ call.headers := by
  simp [submitted]

theorem headers_addHeaders (ancestor : Height)
    (decoded : Header.decodeChain bytes = .ok (first :: added)) :
    (Call.addHeaders ancestor bytes).headers = first :: added := by
  rw [Call.headers, decoded]
  rfl

/-- What is known of the work of a chain from the calls that built it. -/
structure KeepsWork (past : List Call) (best : BestChain) : Prop where
  known : ∀ block ∈ best.blocks, block ∈ submitted past
  works : Header.Identified (submitted past) → 2 ≤ best.blocks.length →
    ∀ block ∈ best.blocks, block.hasValidWork = true

/-- A batch begins with the very block that it builds on. -/
theorem KeepsWork.at?_ancestor (keeps : KeepsWork past best)
    (batch : Batch chain best ancestor tip base crossed first added)
    (identified : Header.Identified (submitted past ++ first :: added)) :
    best.at? ancestor.toNat = some first := by
  obtain ⟨block, joined, sameHash⟩ := batch.joins
  rw [joined]
  congr 1
  apply identified _ _ _ _ sameHash
  · exact List.mem_append_left _ (keeps.known _ (BestChain.mem_of_at? joined))
  · exact List.mem_append_right _ (List.mem_cons_self ..)

theorem KeepsWork.extend (keeps : KeepsWork past best)
    (decoded : Header.decodeChain bytes = .ok (first :: added))
    (batch : Batch chain best ancestor tip base crossed first added) :
    KeepsWork (past ++ [.addHeaders ancestor bytes]) (best.reorganize ancestor added) := by
  constructor
  · intro block member
    rw [submitted_concat, headers_addHeaders ancestor decoded, List.mem_append]
    rw [BestChain.blocks_reorganize, List.mem_append] at member
    rcases member with kept | new
    · exact .inl (keeps.known block (List.mem_of_mem_take kept))
    · exact .inr (List.mem_cons_of_mem _ new)
  · intro identified _ block member
    rw [submitted_concat, headers_addHeaders ancestor decoded] at identified
    rw [BestChain.blocks_reorganize, List.mem_append] at member
    rcases member with kept | new
    · have old := List.mem_of_mem_take kept
      rcases Nat.lt_or_ge best.blocks.length 2 with alone | several
      · -- There is only genesis yet, and the batch begins with it.
        obtain ⟨genesis, whole⟩ : ∃ genesis, best.blocks = [genesis] := by
          have := List.length_pos_of_mem old
          exact List.length_eq_one_iff.mp (by omega)
        have isFirst := BestChain.mem_of_at? (keeps.at?_ancestor batch identified)
        rw [whole, List.mem_singleton] at old isFirst
        rw [old, ← isFirst]
        exact batch.works first (List.mem_cons_self ..)
      · apply keeps.works _ several block old
        intro left leftMember right rightMember
        exact identified left (List.mem_append_left _ leftMember) right
          (List.mem_append_left _ rightMember)
    · exact batch.works block (List.mem_cons_of_mem _ new)

theorem established_keepsWork : Established fun past _ best => KeepsWork past best := by
  intro past caller epochStart tip height startHeader tipHeader _ decodedTip _
  constructor
  · intro block member
    rw [List.mem_singleton.mp member, submitted_concat, Call.headers, decodedTip]
    simp [Except.toOption]
  · intro _ several
    exact absurd several (by simp)

theorem preserved_keepsWork : Preserved fun past _ best => KeepsWork past best where
  batch keeps decoded batch := keeps.extend decoded batch
  query := by
    intro past chain best call keeps asked
    have none : call.headers = [] := by
      cases call with
      | genesis | addHeaders => cases asked
      | _ => rfl
    constructor
    · rw [submitted_concat, none, List.append_nil]
      exact keeps.known
    · rw [submitted_concat, none, List.append_nil]
      exact keeps.works

end WindowRelay

end HeaderRelay
