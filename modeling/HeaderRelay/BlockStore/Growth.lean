import HeaderRelay.BlockStore

/-!
# Growth of a store

A store is the result of a list of insertions.  It may also grow while it is
questioned: then some insertions happen before each question, and every answer
is that of the store at its time.
-/

namespace HeaderRelay

/-- What is put into a store at once. -/
inductive Insertion where
  | block (height : Height) (header : Header) (transactions : List Transaction)
  | headers (start : Height) (headers : List Header)
  deriving DecidableEq

namespace BlockStore

/-- The store after an insertion. -/
def apply (store : BlockStore) : Insertion → BlockStore
  | .block height header transactions => store.insert height header transactions
  | .headers start headers => store.insertHeaders start headers

/-- The store after several insertions. -/
def after (store : BlockStore) (insertions : List Insertion) : BlockStore :=
  insertions.foldl apply store

@[simp] theorem after_cons (store : BlockStore) (insertion : Insertion)
    (rest : List Insertion) :
    store.after (insertion :: rest) = (store.apply insertion).after rest := rfl

/-- A store and what will be put in before each of the next questions. -/
structure Growth where
  store : BlockStore
  ahead : List (List Insertion)
  deriving DecidableEq

namespace Growth

/-- Lets the insertions before the next question happen. -/
def look : StateM Growth BlockStore := fun growth =>
  match growth.ahead with
  | [] => (growth.store, growth)
  | now :: later =>
      let grown := growth.store.after now
      (grown, ⟨grown, later⟩)

/-- The provider that a growing store is. -/
def provider : Provider (StateM Growth) :=
  BlockStore.provider look

end Growth

end BlockStore

end HeaderRelay
