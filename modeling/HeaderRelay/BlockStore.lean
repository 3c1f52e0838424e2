import HeaderRelay.Entries
import HeaderRelay.Header
import HeaderRelay.Merkle
import HeaderRelay.Provider

/-!
# Block stores

Blocks that were put in one at a time, at any heights.  A block takes the place
of the one stored at its height.  An index tells of each transaction in which
block it was last put in; the transactions of a replaced block leave the index.
-/

namespace HeaderRelay

/-- A block as far as it is stored: its header and its transaction ids. -/
structure StoredBlock where
  header : Header
  txids : List Hash
  deriving DecidableEq

structure BlockStore where
  /-- The blocks, each height once. -/
  blocks : Entries Height StoredBlock := []
  /-- The transactions with the heights of their blocks, each id once. -/
  index : Entries Hash (Transaction × Height) := []
  deriving DecidableEq

namespace BlockStore

/-- The block at a height. -/
def block? (store : BlockStore) (height : Height) : Option StoredBlock :=
  store.blocks.get? height

/-- The greatest of the heights. -/
def greatest? : List Height → Option Height
  | [] => none
  | height :: rest => some (rest.foldl max height)

/-- The height of the highest block. -/
def tip? (store : BlockStore) : Option Height :=
  greatest? (store.blocks.map Prod.fst)

/-- Takes the transactions of the block at a height out of the index. -/
def forget (store : BlockStore) (height : Height) : Entries Hash (Transaction × Height) :=
  match store.block? height with
  | none => store.index
  | some replaced => replaced.txids.foldl Entries.erase store.index

/-- Puts in a block. -/
def insert (store : BlockStore) (height : Height) (header : Header)
    (transactions : List Transaction) : BlockStore where
  blocks := store.blocks.put height ⟨header, transactions.map Transaction.id⟩
  index :=
    transactions.foldl
      (fun index transaction => index.put transaction.id (transaction, height))
      (store.forget height)

/-- Puts in consecutive headers as blocks without transactions. Heights wrap around. -/
def insertHeaders (store : BlockStore) (start : Height) : List Header → BlockStore
  | [] => store
  | header :: rest => insertHeaders (store.insert start header []) (start + 1) rest

/-! ### Answers to the questions that a provider is asked -/

def latestHeight (store : BlockStore) : Except ProviderError Height :=
  match store.tip? with
  | some tip => .ok tip
  | none => .error .noBlocks

/-- A transaction and the height of its block. -/
def indexed (store : BlockStore) (txid : Hash) :
    Except ProviderError (Transaction × Height) :=
  match store.index.get? txid with
  | some found => .ok found
  | none => .error (.transactionNotFound txid.display)

def transaction (store : BlockStore) (txid : Hash) : Except ProviderError Transaction :=
  (store.indexed txid).map Prod.fst

/-- The number of blocks from that of a transaction to the highest one. It wraps around. -/
def confirmations (store : BlockStore) (txid : Hash) : Except ProviderError UInt32 := do
  let (_, height) ← store.indexed txid
  let tip ← store.latestHeight
  return tip.down height.toNat + 1

/-- The block at a height, which has to be stored. -/
def block (store : BlockStore) (height : Height) : Except ProviderError StoredBlock :=
  match store.block? height with
  | some block => .ok block
  | none => .error (.blockNotFound height)

/-- The bytes of `count` consecutive headers, the first one `offset` blocks above
`start`. -/
def headersFrom (store : BlockStore) (start : Height) (offset : Nat) :
    (count : Nat) → Except ProviderError Bytes
  | 0 => .ok []
  | count + 1 =>
      match start.up? offset with
      | none => .error (.blockNotFound Height.last)
      | some height => do
          let block ← store.block height
          return block.header.encode ++ (← headersFrom store start (offset + 1) count)

def headers (store : BlockStore) (start : Height) (count : UInt32) :
    Except ProviderError Bytes :=
  store.headersFrom start 0 count.toNat

def branch (store : BlockStore) (txid : Hash) (height : Height) :
    Except ProviderError ReportedBranch := do
  let block ← store.block height
  let position := block.txids.idxOf txid
  match Merkle.branch? block.txids position with
  | none => throw (.transactionNotFound txid.display)
  | some siblings =>
      return ⟨height, siblings.map Hash.reverse, UInt32.ofNat position⟩

/-- A provider that looks into a store, perhaps into another one at each
question. -/
def provider {m : Type → Type} [Monad m] (look : m BlockStore) : Provider m where
  latestHeight := return (← look).latestHeight
  transaction txid := return (← look).transaction txid
  confirmations txid := return (← look).confirmations txid
  headers start count := return (← look).headers start count
  branch txid height := return (← look).branch txid height

end BlockStore

end HeaderRelay
