import HeaderRelay.BlockStore
import HeaderRelay.Proofs.Checks
import HeaderRelay.Proofs.Height
import HeaderRelay.Proofs.Merkle.Inclusion

/-!
# What a store answers

For each of the five questions that a provider is asked, when a store answers and what:
the height of the tip, a transaction and its confirmations, the headers of a run of
blocks and the branch of a transaction.
-/

namespace HeaderRelay.BlockStore

variable {store : BlockStore} {txid : Hash} {height tip start : Height}

/-! ## The tip -/

theorem latestHeight_eq_ok_iff : store.latestHeight = .ok tip ↔ store.tip? = some tip := by
  unfold latestHeight
  split <;> simp_all

theorem height_mem_of_block? {block : StoredBlock} (stored : store.block? height = some block) :
    height ∈ store.blocks.map Prod.fst := by
  obtain ⟨before, after, split, _⟩ := List.lookup_eq_some_iff.mp stored
  simp [split]

theorem exists_tip? {block : StoredBlock} (stored : store.block? height = some block) :
    ∃ tip, store.tip? = some tip := by
  have member := height_mem_of_block? stored
  unfold tip?
  cases heights : store.blocks.map Prod.fst with
  | nil => simp [heights] at member
  | cons first rest => exact ⟨_, rfl⟩

theorem le_foldl_max (heights : List Height) (first : Height) :
    first ≤ heights.foldl max first ∧ ∀ height ∈ heights, height ≤ heights.foldl max first := by
  induction heights generalizing first with
  | nil => simp
  | cons next rest ih =>
      obtain ⟨above, others⟩ := ih (max first next)
      rw [UInt32.le_iff_toNat_le, Height.toNat_max, Nat.max_le] at above
      rw [List.foldl_cons, List.forall_mem_cons]
      exact ⟨UInt32.le_iff_toNat_le.mpr above.1, UInt32.le_iff_toNat_le.mpr above.2, others⟩

/-- No block is above the tip. -/
theorem le_tip {block : StoredBlock} (highest : store.tip? = some tip)
    (stored : store.block? height = some block) : height ≤ tip := by
  have member := height_mem_of_block? stored
  unfold tip? at highest
  cases heights : store.blocks.map Prod.fst with
  | nil => simp [heights] at member
  | cons first rest =>
      rw [heights] at highest member
      obtain rfl := Option.some.inj highest
      obtain ⟨lowest, others⟩ := le_foldl_max rest first
      rcases List.mem_cons.mp member with rfl | among
      · exact lowest
      · exact others height among

/-! ## Transactions -/

theorem indexed_eq_ok_iff {found : Transaction × Height} :
    store.indexed txid = .ok found ↔ store.index.get? txid = some found := by
  unfold indexed
  split <;> simp_all

theorem transaction_eq_ok_iff {transaction : Transaction} :
    store.transaction txid = .ok transaction ↔
      ∃ height, store.index.get? txid = some (transaction, height) := by
  simp only [BlockStore.transaction, Checks.map_eq_ok_iff, indexed_eq_ok_iff]
  simp

theorem confirmations_eq_ok_iff {confirmations : UInt32} :
    store.confirmations txid = .ok confirmations ↔
      ∃ transaction height tip, store.index.get? txid = some (transaction, height) ∧
        store.tip? = some tip ∧ tip.down height.toNat + 1 = confirmations := by
  simp only [BlockStore.confirmations, Checks.bind_eq_ok_iff, indexed_eq_ok_iff,
    latestHeight_eq_ok_iff, Checks.pure_eq_ok_iff]
  simp

/-! ## Headers -/

theorem block_eq_ok_iff {block : StoredBlock} :
    store.block height = .ok block ↔ store.block? height = some block := by
  unfold BlockStore.block
  split <;> simp_all

/-- Whether some blocks are stored at successive heights from `start` on, after the first
`offset` of them. -/
def StoresFrom (store : BlockStore) (start : Height) (offset : Nat)
    (blocks : List StoredBlock) : Prop :=
  ∀ position block, blocks[position]? = some block →
    ∃ height, start.up? (offset + position) = some height ∧ store.block? height = some block

/-- Whether some blocks are stored at successive heights from `start` on. -/
def Stores (store : BlockStore) (start : Height) (blocks : List StoredBlock) : Prop :=
  store.StoresFrom start 0 blocks

theorem storesFrom_nil (offset : Nat) : store.StoresFrom start offset [] := nofun

theorem storesFrom_cons {offset : Nat} {block : StoredBlock} {rest : List StoredBlock} :
    store.StoresFrom start offset (block :: rest) ↔
      (∃ height, start.up? offset = some height ∧ store.block? height = some block) ∧
        store.StoresFrom start (offset + 1) rest := by
  constructor
  · intro stores
    refine ⟨stores 0 block rfl, ?_⟩
    intro position other listed
    rw [Nat.add_assoc, Nat.add_comm 1]
    exact stores (position + 1) other listed
  · rintro ⟨first, others⟩ position other listed
    cases position with
    | zero =>
        obtain rfl : block = other := by simpa using listed
        exact first
    | succ position =>
        rw [Nat.add_comm position, ← Nat.add_assoc]
        exact others position other listed

theorem Stores.first {start : Height} {block : StoredBlock} {above : List StoredBlock}
    (stores : store.Stores start (block :: above)) : store.block? start = some block := by
  obtain ⟨height, here, stored⟩ := stores 0 block rfl
  obtain rfl : height = start := UInt32.toNat_inj.mp (Height.up?_eq_some_iff.mp here)
  exact stored

/-- The last of successive blocks is not above the tip. -/
theorem Stores.last_le_tip {block : StoredBlock} {above : List StoredBlock}
    (highest : store.tip? = some tip) (stores : store.Stores start (block :: above)) :
    start.toNat + above.length ≤ tip.toNat := by
  have inside : above.length < (block :: above).length := Nat.lt_succ_self _
  obtain ⟨height, place, stored⟩ := stores _ _ (List.getElem?_eq_getElem inside)
  rw [Nat.zero_add, Height.up?_eq_some_iff] at place
  rw [← place]
  exact UInt32.le_iff_toNat_le.mp (le_tip highest stored)

theorem headersFrom_eq_ok_iff {offset count : Nat} {bytes : Bytes} :
    store.headersFrom start offset count = .ok bytes ↔
      ∃ blocks, blocks.length = count ∧ store.StoresFrom start offset blocks ∧
        Header.encodeChain (blocks.map StoredBlock.header) = bytes := by
  induction count generalizing offset bytes with
  | zero =>
      simp only [headersFrom, Except.ok.injEq, List.length_eq_zero_iff, exists_eq_left,
        storesFrom_nil, true_and]
      rfl
  | succ count ih =>
      constructor
      · intro told
        rw [headersFrom] at told
        split at told
        · cases told
        next height above =>
          simp only [Checks.bind_eq_ok_iff, block_eq_ok_iff, ih, Checks.pure_eq_ok_iff] at told
          obtain ⟨block, stored, _, ⟨rest, counted, stores, rfl⟩, rfl⟩ := told
          refine ⟨block :: rest, by simp [counted], ?_, rfl⟩
          exact storesFrom_cons.mpr ⟨⟨height, above, stored⟩, stores⟩
      · rintro ⟨blocks, counted, stores, rfl⟩
        cases blocks with
        | nil => cases counted
        | cons block rest =>
            obtain ⟨⟨height, above, stored⟩, others⟩ := storesFrom_cons.mp stores
            rw [headersFrom, above]
            simp only [Checks.bind_eq_ok_iff, block_eq_ok_iff, ih, Checks.pure_eq_ok_iff]
            exact ⟨block, stored, _, ⟨rest, Nat.succ.inj counted, others, rfl⟩, rfl⟩

/-- The headers of a run of blocks are told exactly when all of the blocks are stored. -/
theorem headers_eq_ok_iff {count : UInt32} {bytes : Bytes} :
    store.headers start count = .ok bytes ↔
      ∃ blocks, blocks.length = count.toNat ∧ store.Stores start blocks ∧
        Header.encodeChain (blocks.map StoredBlock.header) = bytes :=
  headersFrom_eq_ok_iff

/-! ## Branches -/

theorem branch_eq_ok_iff {reported : ReportedBranch} :
    store.branch txid height = .ok reported ↔
      ∃ block siblings, store.block? height = some block ∧
        Merkle.branch? block.txids (block.txids.idxOf txid) = some siblings ∧
        ⟨height, siblings.map Hash.reverse, UInt32.ofNat (block.txids.idxOf txid)⟩ = reported := by
  simp only [BlockStore.branch, Checks.bind_eq_ok_iff, block_eq_ok_iff]
  constructor
  · rintro ⟨block, stored, told⟩
    split at told
    · cases told
    next siblings built => exact ⟨block, siblings, stored, built, by simpa using told⟩
  · rintro ⟨block, siblings, stored, built, rfl⟩
    exact ⟨block, stored, by simp [built]⟩

/-- A stored block has a branch for each of its transactions. -/
theorem exists_branch {block : StoredBlock} (stored : store.block? height = some block)
    (member : txid ∈ block.txids) : ∃ reported, store.branch txid height = .ok reported := by
  have inside := List.idxOf_lt_length_iff.mpr member
  exact ⟨_, branch_eq_ok_iff.mpr ⟨block, _, stored, Merkle.branch?_of_inside inside, rfl⟩⟩

end HeaderRelay.BlockStore
