import HeaderRelay.Proofs.BlockStore.Answers
import HeaderRelay.Proofs.BlockStore.Puts
import HeaderRelay.Proofs.Header.Chain

/-!
# What the index of a store finds

A transaction that the index finds is in the stored block that it names.  The index may
miss a transaction that is stored, though: a block that is replaced takes its transactions
out of the index also where another stored block has them.  So what it finds is
what was brought by a block since which no block with the transaction was replaced.
-/

namespace HeaderRelay.BlockStore

variable {store : BlockStore} {txid : Hash} {height : Height}

/-- Whether some stored block has a transaction. -/
def Holds (store : BlockStore) (txid : Hash) : Prop :=
  ∃ height block, store.block? height = some block ∧ txid ∈ block.txids

/-- Whether no block with a transaction is replaced while some blocks are put in. -/
def Keeps (store : BlockStore) (txid : Hash) : List Put → Prop
  | [] => True
  | new :: rest => ¬store.Replaces new txid ∧ (store.put new).Keeps txid rest

/-- Whether one of the blocks that are put in brings a transaction, and no block with the
transaction is replaced after that. -/
def Brings (store : BlockStore) (txid : Hash) (puts : List Put) : Prop :=
  ∃ earlier new later, puts = earlier ++ new :: later ∧ txid ∈ new.txids ∧
    ((earlier.foldl put store).put new).Keeps txid later

theorem not_brings_nil : ¬store.Brings txid [] := by
  rintro ⟨earlier, new, later, split, _⟩
  simp at split

theorem brings_cons {new : Put} {rest : List Put} :
    store.Brings txid (new :: rest) ↔
      (txid ∈ new.txids ∧ (store.put new).Keeps txid rest) ∨ (store.put new).Brings txid rest := by
  constructor
  · rintro ⟨earlier, bringer, later, split, brought, kept⟩
    cases earlier with
    | nil =>
        obtain ⟨rfl, rfl⟩ := List.cons.inj split
        exact .inl ⟨brought, kept⟩
    | cons first earlier =>
        obtain ⟨rfl, rfl⟩ := List.cons.inj split
        exact .inr ⟨earlier, bringer, later, rfl, brought, kept⟩
  · rintro (⟨brought, kept⟩ | ⟨earlier, bringer, later, rfl, brought, kept⟩)
    · exact ⟨[], new, rest, rfl, brought, kept⟩
    · exact ⟨new :: earlier, bringer, later, rfl, brought, kept⟩

/-- What is found after some blocks were put in was found before and kept, or brought by
one of them and kept since. -/
theorem isSome_index_foldl_put_iff (puts : List Put) :
    ((puts.foldl put store).index.get? txid).isSome ↔
      (store.index.get? txid).isSome ∧ store.Keeps txid puts ∨ store.Brings txid puts := by
  induction puts generalizing store with
  | nil => simp [Keeps, not_brings_nil]
  | cons new rest ih =>
      rw [List.foldl_cons, ih, isSome_index_put_iff, brings_cons, Keeps]
      tauto

theorem exists_transaction_iff :
    (∃ transaction, store.transaction txid = .ok transaction) ↔
      (store.index.get? txid).isSome := by
  simp only [transaction_eq_ok_iff, Option.isSome_iff_exists, Prod.exists]

/-- What is found is in a stored block, and the other questions about it are answered. -/
theorem NamesBlocks.answers (names : store.NamesBlocks) {transaction : Transaction}
    (found : store.transaction txid = .ok transaction) :
    transaction.id = txid ∧ ∃ height block tip reported,
      store.block? height = some block ∧ txid ∈ block.txids ∧
        store.latestHeight = .ok tip ∧ height ≤ tip ∧
        store.confirmations txid = .ok (tip.down height.toNat + 1) ∧
        store.branch txid height = .ok reported := by
  obtain ⟨height, listed⟩ := transaction_eq_ok_iff.mp found
  obtain ⟨named, block, stored, member⟩ := names listed
  obtain ⟨tip, highest⟩ := exists_tip? stored
  obtain ⟨reported, told⟩ := exists_branch stored member
  exact ⟨named, height, block, tip, reported, stored, member, latestHeight_eq_ok_iff.mpr highest,
    le_tip highest stored, confirmations_eq_ok_iff.mpr ⟨_, _, _, listed, highest, rfl⟩, told⟩

theorem isSome_index_after_iff (insertions : List Insertion) :
    ((after {} insertions).index.get? txid).isSome ↔
      Brings {} txid (insertions.flatMap puts) := by
  rw [after_eq_foldl, isSome_index_foldl_put_iff]
  simp

/-- How the answers about a transaction agree with the blocks that are stored after some
insertions. -/
structure AnswersFor (insertions : List Insertion) (txid : Hash) : Prop where
  /-- It is found exactly when a block brought it since which none with it was replaced. -/
  found_iff :
    (∃ transaction, (after {} insertions).transaction txid = .ok transaction) ↔
      Brings {} txid (insertions.flatMap puts)
  /-- It is found exactly when it is stored, unless it is stored although the last block
  that brought it was followed by the replacement of a block with it. -/
  agrees_iff :
    ((∃ transaction, (after {} insertions).transaction txid = .ok transaction) ↔
      Holds (after {} insertions) txid) ↔
    (Holds (after {} insertions) txid → Brings {} txid (insertions.flatMap puts))
  /-- What is found is in a stored block, which the confirmations are counted from and
  which has a branch for it. -/
  named : ∀ transaction, (after {} insertions).transaction txid = .ok transaction →
    transaction.id = txid ∧ ∃ height block tip reported,
      (after {} insertions).block? height = some block ∧ txid ∈ block.txids ∧
        (after {} insertions).latestHeight = .ok tip ∧ height ≤ tip ∧
        (after {} insertions).confirmations txid = .ok (tip.down height.toNat + 1) ∧
        (after {} insertions).branch txid height = .ok reported

/-- The index finds no transaction outside the stored blocks, and it finds a stored one
exactly when no block with it was replaced since the last block that brought it. -/
theorem index_answers (insertions : List Insertion) (txid : Hash) :
    AnswersFor insertions txid := by
  have names := namesBlocks_after insertions
  have found_iff :
      (∃ transaction, (after {} insertions).transaction txid = .ok transaction) ↔
        Brings {} txid (insertions.flatMap puts) :=
    exists_transaction_iff.trans (isSome_index_after_iff insertions)
  have named : ∀ transaction, (after {} insertions).transaction txid = .ok transaction → _ :=
    fun _ => names.answers
  refine ⟨found_iff, ?_, named⟩
  rw [← found_iff]
  constructor
  · exact fun agrees => agrees.mpr
  · refine fun finds => ⟨?_, finds⟩
    rintro ⟨transaction, found⟩
    obtain ⟨_, height, block, _, _, stored, member, _⟩ := named transaction found
    exact ⟨height, block, stored, member⟩

/-- A transaction that moves to the block above when its block is replaced, the block
above being put in first. -/
def testInsertions : List Insertion :=
  [.block 100 (.easy .zero 0) [testTransaction], .block 101 (.easy .zero 1) [testTransaction],
    .headers 100 [.easy .zero 2]]

/-- The transaction is stored and not found. -/
theorem replaced_block_hides_transaction :
    Holds (after {} testInsertions) testTransaction.id ∧
      (after {} testInsertions).transaction testTransaction.id =
        .error (.transactionNotFound testTransaction.id.display) := by
  refine ⟨⟨101, ⟨.easy .zero 1, [testTransaction.id]⟩, ?_, List.mem_singleton_self _⟩, ?_⟩
  · decide +kernel
  · decide +kernel

end HeaderRelay.BlockStore
