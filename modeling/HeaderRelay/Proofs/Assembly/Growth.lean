import HeaderRelay.Proofs.Assembly.Questions
import HeaderRelay.Proofs.BlockStore.Puts
import HeaderRelay.Proofs.Header.Chain

/-!
# Assembly while the store grows

The confirmations and the tip are told by two answers, so blocks that arrive in between
move the height that is computed from them.  The headers and the branch are then asked
for at a height where the transaction may not be.  Nothing wrong comes of it as long as no
block is replaced: what a store once had at a height it still has there, so headers and
branch are those of one block, and the branch tells whether it has the transaction.
-/

namespace HeaderRelay

namespace BlockStore

variable {store later last : BlockStore}

/-- Whether blocks are put in at heights alone that have no block yet. -/
def Free (store : BlockStore) : List Put → Prop
  | [] => True
  | new :: rest => store.block? new.height = none ∧ (store.put new).Free rest

/-- Whether a store still has every block of another one. -/
def Extends (later store : BlockStore) : Prop :=
  ∀ ⦃height block⦄, store.block? height = some block → later.block? height = some block

theorem Extends.refl (store : BlockStore) : store.Extends store := fun _ _ stored => stored

theorem Extends.trans (second : last.Extends later) (first : later.Extends store) :
    last.Extends store := fun _ _ stored => second (first stored)

theorem Extends.put {new : Put} (free : store.block? new.height = none) :
    (store.put new).Extends store := by
  intro height block stored
  have elsewhere : height ≠ new.height := by
    rintro rfl
    rw [free] at stored
    cases stored
  rw [block?_put, if_neg elsewhere, stored]

theorem Free.extends {puts : List Put} (free : store.Free puts) :
    (puts.foldl BlockStore.put store).Extends store := by
  induction puts generalizing store with
  | nil => exact .refl store
  | cons new rest ih => exact (ih free.2).trans (.put free.1)

theorem Extends.stores {start : Height} {blocks : List StoredBlock} (kept : later.Extends store)
    (stores : store.Stores start blocks) : later.Stores start blocks := by
  intro position block listed
  obtain ⟨height, above, stored⟩ := stores position block listed
  exact ⟨height, above, kept stored⟩

/-- Whether blocks arrive at free heights alone, before each question. -/
def FreeAhead (store : BlockStore) : List (List Insertion) → Prop
  | [] => True
  | now :: rest => store.Free (now.flatMap puts) ∧ (store.after now).FreeAhead rest

namespace Growth

/-- Whether a store grows without losing a block. -/
def IsFree (growth : Growth) : Prop :=
  growth.store.FreeAhead growth.ahead

/-- A look lets some blocks arrive and tells the store that they leave. -/
theorem IsFree.look {growth : Growth} (free : growth.IsFree) :
    (look growth).2.IsFree ∧ (look growth).1 = (look growth).2.store ∧
      (look growth).2.store.Extends growth.store := by
  obtain ⟨store, ahead⟩ := growth
  cases ahead with
  | nil => exact ⟨trivial, rfl, .refl store⟩
  | cons now rest =>
      obtain ⟨here, ahead⟩ := free
      refine ⟨ahead, rfl, ?_⟩
      change (store.after now).Extends store
      rw [after_eq_foldl]
      exact here.extends

end Growth

end BlockStore

/-- Whether a proof is about one stored block: its headers are those of the block and of
the blocks above it, and its branch is that of the transaction in the block. The position
is told by 32 bits. -/
def Proof.IsBackedBy (proof : Proof) (store : BlockStore) (required : UInt32) : Prop :=
  ∃ height block above position siblings,
    store.Stores height (block :: above) ∧ above.length + 1 = required.toNat ∧
      proof.headers = Header.encodeChain ((block :: above).map StoredBlock.header) ∧
      block.txids[position]? = some proof.txid ∧ proof.index = UInt32.ofNat position ∧
      (position < 2 ^ 32 → proof.index.toNat = position) ∧
      Merkle.branch? block.txids position = some siblings ∧
      proof.branch = Proof.encodeBranch siblings

namespace AssembledProof

open BlockStore (Growth)

variable {required : UInt32} {txid : Hash} {assembled : AssembledProof}

/-- What two stores tell of one height is about one block if the second has kept the blocks
of the first. -/
theorem isBackedBy_of_extends {store later : BlockStore} (kept : later.Extends store)
    (positive : 0 < required) {transaction : Transaction} {height : Height} {headers : Bytes}
    {branch : ReportedBranch} (headersTold : store.headers height required = .ok headers)
    (branchTold : later.branch txid height = .ok branch)
    (parts : ofParts txid transaction height headers branch = .ok assembled) :
    assembled.proof.txid = txid ∧ assembled.proof.IsBackedBy later required := by
  obtain ⟨blocks, counted, stores, rfl⟩ := BlockStore.headers_eq_ok_iff.mp headersTold
  obtain ⟨other, siblings, stored, built, rfl⟩ := BlockStore.branch_eq_ok_iff.mp branchTold
  obtain ⟨_, rfl⟩ := ofParts_eq_ok_iff.mp parts
  cases blocks with
  | nil =>
      rw [UInt32.lt_iff_toNat_lt, ← counted] at positive
      exact absurd positive (Nat.lt_irrefl 0)
  | cons block above =>
      obtain rfl : other = block := Option.some.inj (stored.symm.trans (kept stores.first))
      have member : txid ∈ other.txids := by
        by_contra missing
        have outside := Nat.le_of_not_lt (mt List.idxOf_lt_length_iff.mp missing)
        rw [Merkle.branch?_eq_none_iff.mpr outside] at built
        cases built
      refine ⟨rfl, height, other, above, _, siblings, kept.stores stores, counted, rfl, ?_, rfl,
        UInt32.toNat_ofNat_of_lt', built, ?_⟩
      · exact List.getElem?_idxOf member
      · exact congrArg Proof.encodeBranch (Hash.map_reverse_reverse siblings)

/-- What is assembled while the store grows is about one block that the store has in the
end, however many blocks arrive before each question. -/
theorem assembled_proofs_are_whole {growth last : Growth} (free : growth.IsFree)
    (positive : 0 < required) {delays : List Nat}
    (told : assemble Growth.provider delays required txid growth = (.ok assembled, last)) :
    assembled.proof.txid = txid ∧ assembled.proof.IsBackedBy last.store required := by
  obtain ⟨transaction, confirmations, tip, height, headers, branch, _, _, _, _, _, headersTold,
    branchTold, parts, rfl⟩ := assemble_eq_ok_iff.mp told
  -- The height may be off after the third look; the last two are asked about one height.
  obtain ⟨free, _, _⟩ := free.look
  obtain ⟨free, _, _⟩ := free.look
  obtain ⟨free, _, _⟩ := free.look
  obtain ⟨free, fourth, _⟩ := free.look
  obtain ⟨_, fifth, kept⟩ := free.look
  rw [fourth] at headersTold
  rw [fifth] at branchTold
  exact isBackedBy_of_extends kept positive headersTold branchTold parts

/-- A block with a transaction, and one above it that arrives after the confirmations were
told. It has the transaction as well, and is taken for the block of the transaction. -/
def testGrowth : Growth where
  store := .after {} [.block 100 (.easy .zero 0) [BlockStore.testTransaction]]
  ahead := [[], [], [.block 101 (.easy .zero 1) [BlockStore.testTransaction]]]

/-- What is assembled meanwhile is about the upper block. -/
theorem testGrowth_assembles_whole :
    ∃ assembled last, testGrowth.IsFree ∧ (0 : UInt32) < 1 ∧
      assemble Growth.provider [] 1 BlockStore.testTransaction.id testGrowth =
        (.ok assembled, last) ∧
      assembled.proof.txid = BlockStore.testTransaction.id ∧
      assembled.proof.headers = (Header.easy .zero 1).encode ∧
      assembled.proof.IsBackedBy last.store 1 := by
  have free : testGrowth.IsFree := by
    refine ⟨trivial, trivial, ⟨?_, trivial⟩, trivial⟩
    decide +kernel
  have told : assemble Growth.provider [] 1 BlockStore.testTransaction.id testGrowth =
      (.ok ⟨BlockStore.testTransaction, ⟨BlockStore.testTransaction.id, [], 0,
        (Header.easy .zero 1).encode⟩⟩, ⟨testGrowth.store.after testGrowth.ahead.flatten, []⟩) := by
    change @Eq (Except ProviderError AssembledProof × Growth) _ _
    decide +kernel
  obtain ⟨named, backed⟩ := assembled_proofs_are_whole free (by decide) told
  exact ⟨_, _, free, by decide, told, named, rfl, backed⟩

end AssembledProof

end HeaderRelay
