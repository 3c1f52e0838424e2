/-!
# Keyed entries

A list of values with their keys.  The value of a key is that of its first
entry; storing a value takes all earlier entries of the key away.
-/

namespace HeaderRelay

/-- Values with their keys. -/
abbrev Entries (Key Value : Type) :=
  List (Key × Value)

namespace Entries

variable {Key Value : Type} [DecidableEq Key]

/-- The value of a key. -/
def get? (entries : Entries Key Value) (key : Key) : Option Value :=
  List.lookup key entries

/-- The entries of all other keys. -/
def erase (entries : Entries Key Value) (key : Key) : Entries Key Value :=
  entries.filter fun entry => entry.1 ≠ key

/-- The entries with one more, which replaces those of the same key. -/
def put (entries : Entries Key Value) (key : Key) (value : Value) : Entries Key Value :=
  (key, value) :: entries.erase key

@[simp] theorem get?_nil (key : Key) : get? ([] : Entries Key Value) key = none := rfl

theorem get?_cons (first key : Key) (value : Value) (rest : Entries Key Value) :
    get? ((first, value) :: rest) key = if key = first then some value else rest.get? key := by
  by_cases same : key = first
  · simp [get?, same]
  · have differ : (key == first) = false := by simpa using same
    simp [get?, List.lookup_cons, differ, same]

@[simp] theorem get?_erase (entries : Entries Key Value) (erased key : Key) :
    (entries.erase erased).get? key = if key = erased then none else entries.get? key := by
  induction entries with
  | nil => simp [erase]
  | cons entry rest ih =>
      obtain ⟨first, value⟩ := entry
      by_cases here : first = erased
      · have dropped : erase ((first, value) :: rest) erased = erase rest erased := by
          simp [erase, here]
        rw [dropped, ih, get?_cons, here]
        split <;> rfl
      · have kept :
            erase ((first, value) :: rest) erased = (first, value) :: erase rest erased := by
          simp [erase, here]
        rw [kept, get?_cons, ih, get?_cons]
        by_cases same : key = first <;> simp [same, here]

@[simp] theorem get?_put (entries : Entries Key Value) (stored key : Key) (value : Value) :
    (entries.put stored value).get? key =
      if key = stored then some value else entries.get? key := by
  rw [put, get?_cons, get?_erase]
  split <;> rfl

end Entries

end HeaderRelay
