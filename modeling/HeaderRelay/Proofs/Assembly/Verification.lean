import HeaderRelay.Proofs.Assembly.Questions
import HeaderRelay.Proofs.BlockStore.Puts
import HeaderRelay.Proofs.Encoding
import HeaderRelay.Proofs.Header.Chain
import HeaderRelay.Proofs.Verification

/-!
# Assembled proofs are accepted

A store that does not grow meanwhile answers all five questions about a transaction that
it finds, if the transaction has enough confirmations and none of the blocks in question
is missing.  What is assembled from the answers is accepted by every anchor that
accepts the headers, as long as the lowest of them has the Merkle root of its block.
-/

namespace HeaderRelay

/-! ## The height of a transaction -/

namespace BlockStore

variable {height tip : Height}

/-- One more than the distance to the tip, which leaves the range at the last height alone. -/
theorem toNat_confirmations (bounded : tip < Height.last) :
    (tip.down height.toNat + 1).toNat = tip.toNat - height.toNat + 1 := by
  have inRange : tip.toNat < 2 ^ 32 - 1 := UInt32.lt_iff_toNat_lt.mp bounded
  rw [Height.toNat_succ, Height.toNat_down, Nat.mod_eq_of_lt (by omega)]

/-- The height is found again from the confirmations that were counted from it. -/
theorem blockHeight_of_confirmations {txid : Hash} (below : height.toNat ≤ tip.toNat)
    (bounded : tip < Height.last) :
    AssembledProof.blockHeight txid (tip.down height.toNat + 1) tip = .ok height := by
  have inRange : tip.toNat < 2 ^ 32 - 1 := UInt32.lt_iff_toNat_lt.mp bounded
  have found : (tip + 1).down? (tip.down height.toNat + 1).toNat = some height := by
    rw [Height.down?_eq_some_iff, Height.toNat_succ, toNat_confirmations bounded,
      Nat.mod_eq_of_lt (by omega)]
    omega
  rw [AssembledProof.blockHeight, found]

end BlockStore

/-! ## The proof of a transaction in a block -/

namespace Proof

/-- The proof with the headers of a block and of the blocks above it, and with the branch
of a leaf of the block. -/
def ofBlock (txid : Hash) (siblings : List Hash) (block : StoredBlock)
    (above : List StoredBlock) : Proof where
  txid := txid
  branch := encodeBranch siblings
  index := UInt32.ofNat (block.txids.idxOf txid)
  headers := Header.encodeChain ((block :: above).map StoredBlock.header)

variable {txid : Hash} {siblings : List Hash} {block : StoredBlock} {above : List StoredBlock}

theorem requiredChain_ofBlock {required : UInt32} {enforced : Bool}
    (counted : above.length + 1 = required.toNat) :
    (ofBlock txid siblings block above).requiredChain ⟨required, enforced⟩ =
      .ok (block.header, above.map StoredBlock.header) := by
  apply requiredChain_eq_ok_iff.mpr
  refine ⟨?_, Header.decodeChain_encodeChain _, by rwa [List.length_map]⟩
  rintro rfl
  cases counted

theorem checkInclusion_ofBlock (inside : block.txids.idxOf txid < block.txids.length)
    (known : Merkle.root? block.txids = some block.header.merkleRoot)
    (short : block.txids.idxOf txid < 2 ^ 32) :
    (ofBlock txid (Merkle.siblings block.txids _ inside) block above).checkInclusion
      block.header = .ok () := by
  apply checkInclusion_eq_ok_iff.mpr
  refine ⟨_, decodeBranch_encodeBranch _, ?_⟩
  have place : (UInt32.ofNat (block.txids.idxOf txid)).toUInt64.toNat = block.txids.idxOf txid := by
    rw [UInt32.toNat_toUInt64, UInt32.toNat_ofNat_of_lt' short]
  have shown := Merkle.original_of_lt inside
  have bounded := Nat.lt_of_lt_of_le inside (Merkle.length_le_two_pow_depth block.txids)
  rw [← place] at bounded
  have accepted := Merkle.verify_siblings known inside (by rwa [place]) bounded
  rwa [List.getElem_idxOf] at accepted

/-- The proof is accepted wherever its headers are. -/
theorem verify_ofBlock {required : UInt32} (counted : above.length + 1 = required.toNat)
    (inside : block.txids.idxOf txid < block.txids.length)
    (known : Merkle.root? block.txids = some block.header.merkleRoot)
    (short : block.txids.idxOf txid < 2 ^ 32) {anchor : Anchor} {epochs : EpochDifficulties}
    {validated : ValidatedChain}
    (anchored : anchor.checkHeaders ((block :: above).map StoredBlock.header) = .ok ())
    (hasEpochs : anchor.epochs = .ok epochs)
    (valid : ValidatedChain.ofHeaders anchor.constants epochs
      ((block :: above).map StoredBlock.header) = .ok validated) :
    (ofBlock txid (Merkle.siblings block.txids _ inside) block above).verify anchor
      ⟨required, false⟩ = .ok validated :=
  verify_eq_ok_iff.mpr ⟨_, _, epochs, requiredChain_ofBlock counted,
    checkInclusion_ofBlock inside known short, anchored, hasEpochs, valid, nofun⟩

end Proof

namespace AssembledProof

open BlockStore (Growth)

variable {txid : Hash} {transaction : Transaction} {height tip : Height} {required : UInt32}
variable {block : StoredBlock} {above : List StoredBlock} {delays : List Nat}

/-- A store that does not grow answers all five questions. -/
theorem assemble_eq_ofBlock {store : BlockStore}
    (found : store.index.get? txid = some (transaction, height)) (highest : store.tip? = some tip)
    (bounded : tip < Height.last) (stored : store.Stores height (block :: above))
    (counted : above.length + 1 = required.toNat)
    (inside : block.txids.idxOf txid < block.txids.length) :
    assemble Growth.provider delays required txid ⟨store, []⟩ =
      (.ok ⟨transaction, .ofBlock txid (Merkle.siblings block.txids _ inside) block above⟩,
        ⟨store, []⟩) := by
  have last := stored.last_le_tip highest
  have below : height.toNat ≤ tip.toNat := by omega
  have transactionTold := BlockStore.transaction_eq_ok_iff.mpr ⟨_, found⟩
  have confirmationsTold := BlockStore.confirmations_eq_ok_iff.mpr ⟨_, _, _, found, highest, rfl⟩
  have enough : ¬tip.down height.toNat + 1 < required := by
    rw [UInt32.lt_iff_toNat_lt, BlockStore.toNat_confirmations bounded, ← counted]
    omega
  have tipTold := BlockStore.latestHeight_eq_ok_iff.mpr highest
  have here : blockHeight txid (tip.down height.toNat + 1) tip = .ok height :=
    BlockStore.blockHeight_of_confirmations below bounded
  have headersTold := BlockStore.headers_eq_ok_iff.mpr
    ⟨block :: above, by rwa [List.length_cons], stored, rfl⟩
  have branchTold := BlockStore.branch_eq_ok_iff.mpr
    ⟨block, _, stored.first, Merkle.branch?_of_inside inside, rfl⟩
  apply assemble_eq_ok_iff.mpr
  refine ⟨_, _, _, _, _, _, transactionTold, confirmationsTold, enough, tipTold, here, headersTold,
    branchTold, ofParts_eq_ok_iff.mpr ⟨rfl, ?_⟩, rfl⟩
  rw [Hash.map_reverse_reverse, Proof.ofBlock]

/-- Whether what was assembled proves that a transaction is in the lowest of some blocks.
A proof tells the position in the block by 32 bits. -/
structure Proves (assembled : AssembledProof) (id : Hash) (block : StoredBlock)
    (above : List StoredBlock) (required : UInt32) : Prop where
  transaction : assembled.transaction.id = id
  txid : assembled.proof.txid = id
  headers : assembled.proof.headers = Header.encodeChain ((block :: above).map StoredBlock.header)
  /-- The root of the block being right, an anchor that accepts the headers accepts the
  proof. -/
  accepted : Merkle.root? block.txids = some block.header.merkleRoot →
    block.txids.idxOf id < 2 ^ 32 →
    ∀ (anchor : Anchor) epochs validated,
      anchor.checkHeaders ((block :: above).map StoredBlock.header) = .ok () →
      anchor.epochs = .ok epochs →
      ValidatedChain.ofHeaders anchor.constants epochs ((block :: above).map StoredBlock.header) =
        .ok validated →
      assembled.proof.verify anchor ⟨required, false⟩ = .ok validated

/-- Whatever was put into a store, the assembly for a transaction that it finds succeeds
with as many confirmations as there are blocks from that of the transaction on, and
what is assembled proves that the transaction is in its block. -/
theorem assembled_proofs_verify (insertions : List Insertion)
    (found : (BlockStore.after {} insertions).indexed txid = .ok (transaction, height))
    (highest : (BlockStore.after {} insertions).latestHeight = .ok tip)
    (bounded : tip < Height.last)
    (stored : (BlockStore.after {} insertions).Stores height (block :: above))
    (counted : above.length + 1 = required.toNat) (delays : List Nat) :
    ∃ assembled,
      assemble Growth.provider delays required txid ⟨.after {} insertions, []⟩ =
        (.ok assembled, ⟨.after {} insertions, []⟩) ∧
      assembled.transaction = transaction ∧ assembled.Proves txid block above required := by
  rw [BlockStore.indexed_eq_ok_iff] at found
  rw [BlockStore.latestHeight_eq_ok_iff] at highest
  obtain ⟨named, other, there, member⟩ := BlockStore.namesBlocks_after insertions found
  obtain rfl : other = block := Option.some.inj (there.symm.trans stored.first)
  have inside := List.idxOf_lt_length_iff.mpr member
  refine ⟨_, assemble_eq_ofBlock found highest bounded stored counted inside, rfl, named, rfl, rfl,
    ?_⟩
  intro known short anchor epochs validated anchored hasEpochs valid
  exact Proof.verify_ofBlock counted inside known short anchored hasEpochs valid

/-- A block of the test network with two transactions. -/
def testBlock : StoredBlock :=
  let first := { BlockStore.testTransaction with lockTime := 1 }.id
  let second := BlockStore.testTransaction.id
  ⟨{ Header.easy .zero 1 with merkleRoot := first.pair second }, [first, second]⟩

/-- A block on it without any. -/
def testTip : StoredBlock :=
  ⟨.easy testBlock.header.hash 1, []⟩

/-- How the two are put into a store, the upper one as a header alone. -/
def testInsertions : List Insertion :=
  [.block 100 testBlock.header [{ BlockStore.testTransaction with lockTime := 1 },
    BlockStore.testTransaction], .headers 101 [testTip.header]]

/-- The second transaction of the lower block is proved with two confirmations. -/
theorem testBlock_proof_verifies :
    ∃ assembled,
      (BlockStore.after {} testInsertions).indexed BlockStore.testTransaction.id =
        .ok (BlockStore.testTransaction, 100) ∧
      (BlockStore.after {} testInsertions).latestHeight = .ok 101 ∧ (101 : Height) < Height.last ∧
      (BlockStore.after {} testInsertions).Stores 100 [testBlock, testTip] ∧
      [testTip].length + 1 = (2 : UInt32).toNat ∧
      assemble Growth.provider [] 2 BlockStore.testTransaction.id ⟨.after {} testInsertions, []⟩ =
        (.ok assembled, ⟨.after {} testInsertions, []⟩) ∧
      assembled.Proves BlockStore.testTransaction.id testBlock [testTip] 2 ∧
      assembled.proof.verify (.fixed Network.regtest.constants ⟨1, 1⟩) ⟨2, false⟩ =
        .ok ⟨testBlock.header.hash, testTip.header.hash, 2, 2⟩ := by
  have found : (BlockStore.after {} testInsertions).indexed BlockStore.testTransaction.id =
      .ok (BlockStore.testTransaction, 100) := by
    decide +kernel
  have highest : (BlockStore.after {} testInsertions).latestHeight = .ok 101 := by
    decide +kernel
  have stored : (BlockStore.after {} testInsertions).Stores 100 [testBlock, testTip] := by
    refine BlockStore.storesFrom_cons.mpr ⟨⟨100, rfl, ?_⟩, BlockStore.storesFrom_cons.mpr
      ⟨⟨101, rfl, ?_⟩, BlockStore.storesFrom_nil _⟩⟩
    · decide +kernel
    · decide +kernel
  have counted : [testTip].length + 1 = (2 : UInt32).toNat := rfl
  obtain ⟨assembled, told, _, proves⟩ :=
    assembled_proofs_verify testInsertions found highest (by decide) stored counted []
  refine ⟨assembled, found, highest, by decide, stored, counted, told, proves, ?_⟩
  refine proves.accepted ?_ ?_ _ _ _ rfl rfl ?_
  · decide +kernel
  · decide +kernel
  · decide +kernel

end AssembledProof

end HeaderRelay
