import HeaderRelay.BlockStore.Growth
import Mathlib.Tactic.Common

/-!
# Blocks put in one at a time

Headers that are put in together are single blocks without transactions, so a store is
the result of single blocks that were put in one after the other.  This module says what
one of them does: which blocks are stored afterwards, and which transactions the index
finds.  What every one of them preserves is that the index names stored blocks.
-/

namespace HeaderRelay

namespace Entries

variable {Key Value Item : Type} [DecidableEq Key]

theorem get?_foldl_erase (entries : Entries Key Value) (erased : List Key) (key : Key) :
    (erased.foldl erase entries).get? key = if key ∈ erased then none else entries.get? key := by
  induction erased generalizing entries with
  | nil => simp
  | cons first rest ih =>
      rw [List.foldl_cons, ih, get?_erase]
      by_cases here : key = first <;> simp [here]

variable {keyOf : Item → Key} {valueOf : Item → Value} {items : List Item} {key : Key}

theorem get?_foldl_put_of_not_mem (entries : Entries Key Value) (apart : key ∉ items.map keyOf) :
    (items.foldl (fun stored item => stored.put (keyOf item) (valueOf item)) entries).get? key =
      entries.get? key := by
  induction items generalizing entries with
  | nil => rfl
  | cons item rest ih =>
      rw [List.map_cons, List.mem_cons, not_or] at apart
      rw [List.foldl_cons, ih _ apart.2, get?_put, if_neg apart.1]

/-- The value of a key that was put in is that of an item with the key. -/
theorem get?_foldl_put_of_mem (entries : Entries Key Value) (member : key ∈ items.map keyOf) :
    ∃ item ∈ items, keyOf item = key ∧
      (items.foldl (fun stored item => stored.put (keyOf item) (valueOf item)) entries).get? key =
        some (valueOf item) := by
  induction items generalizing entries with
  | nil => cases member
  | cons item rest ih =>
      rw [List.foldl_cons]
      by_cases later : key ∈ rest.map keyOf
      · obtain ⟨other, among, named, found⟩ := ih _ later
        exact ⟨other, List.mem_cons_of_mem _ among, named, found⟩
      · have here : key = keyOf item := by simpa [later] using member
        refine ⟨item, List.mem_cons_self, here.symm, ?_⟩
        rw [get?_foldl_put_of_not_mem _ later, get?_put, if_pos here]

end Entries

namespace BlockStore

/-- A single block with its transactions and the height at which it is put in. -/
structure Put where
  height : Height
  header : Header
  transactions : List Transaction

/-- A transaction with one input and no output. -/
def testTransaction : Transaction :=
  ⟨2, [⟨.zero, 0, [], 0, []⟩], [], 0⟩

namespace Put

/-- The ids of the transactions. -/
def txids (new : Put) : List Hash :=
  new.transactions.map Transaction.id

/-- The block as it is stored. -/
def block (new : Put) : StoredBlock :=
  ⟨new.header, new.txids⟩

/-- Consecutive headers as blocks without transactions. -/
def ofHeaders (start : Height) : List Header → List Put
  | [] => []
  | header :: rest => ⟨start, header, []⟩ :: ofHeaders (start + 1) rest

end Put

/-- The store after a single block was put in. -/
def put (store : BlockStore) (new : Put) : BlockStore :=
  store.insert new.height new.header new.transactions

/-- The single blocks of an insertion. -/
def puts : Insertion → List Put
  | .block height header transactions => [⟨height, header, transactions⟩]
  | .headers start headers => Put.ofHeaders start headers

variable {store : BlockStore} {new : Put} {txid : Hash} {place : Height}

theorem insertHeaders_eq_foldl (store : BlockStore) (start : Height) (headers : List Header) :
    store.insertHeaders start headers = (Put.ofHeaders start headers).foldl put store := by
  induction headers generalizing store start with
  | nil => rfl
  | cons header rest ih =>
      rw [insertHeaders, Put.ofHeaders, List.foldl_cons]
      exact ih _ (start + 1)

theorem apply_eq_foldl (store : BlockStore) (insertion : Insertion) :
    store.apply insertion = (puts insertion).foldl put store := by
  cases insertion with
  | block height header transactions => rfl
  | headers start headers => exact insertHeaders_eq_foldl store start headers

theorem after_eq_foldl (store : BlockStore) (insertions : List Insertion) :
    store.after insertions = (insertions.flatMap puts).foldl put store := by
  induction insertions generalizing store with
  | nil => rfl
  | cons insertion rest ih =>
      rw [after_cons, ih, apply_eq_foldl, List.flatMap_cons, List.foldl_append]

/-! ## Blocks -/

@[simp] theorem block?_put (store : BlockStore) (new : Put) (place : Height) :
    (store.put new).block? place =
      if place = new.height then some new.block else store.block? place :=
  Entries.get?_put _ _ _ _

/-- Whether a block that is put in replaces one with a transaction. -/
def Replaces (store : BlockStore) (new : Put) (txid : Hash) : Prop :=
  ∃ old, store.block? new.height = some old ∧ txid ∈ old.txids

/-! ## The index -/

theorem get?_forget_of_replaces (replaced : store.Replaces new txid) :
    (store.forget new.height).get? txid = none := by
  obtain ⟨old, stored, member⟩ := replaced
  rw [forget, stored]
  exact (Entries.get?_foldl_erase _ _ _).trans (if_pos member)

theorem get?_forget_of_not_replaces (apart : ¬store.Replaces new txid) :
    (store.forget new.height).get? txid = store.index.get? txid := by
  unfold forget
  split
  · rfl
  next old stored =>
    exact (Entries.get?_foldl_erase _ _ _).trans
      (if_neg fun member => apart ⟨old, stored, member⟩)

/-- The index finds what a block brings in that block. -/
theorem get?_index_put_of_mem (store : BlockStore) (brought : txid ∈ new.txids) :
    ∃ transaction, transaction.id = txid ∧
      (store.put new).index.get? txid = some (transaction, new.height) := by
  obtain ⟨transaction, _, named, found⟩ :=
    Entries.get?_foldl_put_of_mem (store.forget new.height) brought
  exact ⟨transaction, named, found⟩

theorem get?_index_put_of_not_mem (store : BlockStore) (apart : txid ∉ new.txids) :
    (store.put new).index.get? txid = (store.forget new.height).get? txid :=
  Entries.get?_foldl_put_of_not_mem _ apart

/-- A transaction is found after a block was put in if the block brings it, or if it was
found before and the block replaces none with it. -/
theorem isSome_index_put_iff :
    ((store.put new).index.get? txid).isSome ↔
      txid ∈ new.txids ∨ (store.index.get? txid).isSome ∧ ¬store.Replaces new txid := by
  by_cases brought : txid ∈ new.txids
  · obtain ⟨transaction, _, found⟩ := get?_index_put_of_mem store brought
    simp [brought, found]
  · rw [get?_index_put_of_not_mem store brought]
    by_cases replaced : store.Replaces new txid
    · simp [brought, replaced, get?_forget_of_replaces]
    · simp [brought, replaced, get?_forget_of_not_replaces]

/-- Whether every entry of the index is a transaction of the stored block that it names. -/
def NamesBlocks (store : BlockStore) : Prop :=
  ∀ ⦃txid transaction height⦄, store.index.get? txid = some (transaction, height) →
    transaction.id = txid ∧ ∃ block, store.block? height = some block ∧ txid ∈ block.txids

theorem namesBlocks_empty : NamesBlocks {} := nofun

/-- The entries that name a replaced block leave the index with it. -/
theorem NamesBlocks.put (names : store.NamesBlocks) (new : Put) : (store.put new).NamesBlocks := by
  intro txid transaction height found
  by_cases brought : txid ∈ new.txids
  · obtain ⟨other, named, other_found⟩ := get?_index_put_of_mem store brought
    obtain ⟨rfl, rfl⟩ : other = transaction ∧ new.height = height := by
      simpa using other_found.symm.trans found
    exact ⟨named, new.block, by simp, brought⟩
  · rw [get?_index_put_of_not_mem store brought] at found
    by_cases replaced : store.Replaces new txid
    · rw [get?_forget_of_replaces replaced] at found
      cases found
    · rw [get?_forget_of_not_replaces replaced] at found
      obtain ⟨named, block, stored, member⟩ := names found
      have elsewhere : height ≠ new.height := by
        rintro rfl
        exact replaced ⟨block, stored, member⟩
      exact ⟨named, block, by simpa [elsewhere] using stored, member⟩

theorem NamesBlocks.foldl_put (names : store.NamesBlocks) (puts : List Put) :
    (puts.foldl BlockStore.put store).NamesBlocks := by
  induction puts generalizing store with
  | nil => exact names
  | cons new rest ih => exact ih (names.put new)

/-- In every store that was built from nothing the index names stored blocks. -/
theorem namesBlocks_after (insertions : List Insertion) : NamesBlocks (after {} insertions) := by
  rw [after_eq_foldl]
  exact namesBlocks_empty.foldl_put _

end BlockStore

end HeaderRelay
