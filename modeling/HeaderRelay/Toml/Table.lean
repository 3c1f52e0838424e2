import HeaderRelay.Toml.Value

/-!
# Additions to tables

A name is given a value only once.  Beyond that

- a key with several parts opens tables on its way and may go on in tables that
  such keys or headers have opened in passing; the table that takes its value
  must have been opened by such a key;
- a header names a new table or one that other headers have passed, and leads
  into any table that is not in braces;
- a repeated header adds a table to those of the same header, and every other
  header leads into the last of these.
-/

namespace HeaderRelay.Toml

namespace Members

/-- Gives a new value to a name. -/
def replace (name : String) (value : Toml) : Members → Members
  | [] => []
  | (other, old) :: rest =>
      if other = name then (name, value) :: rest else (other, old) :: replace name value rest

/-- Adds a name that is new. -/
def add (name : String) (value : Toml) (members : Members) : Option Members :=
  if (members.lookup name).isSome then none else some (members ++ [(name, value)])

end Members

/-- Changes the last table of a repeated header. -/
def changeLast (change : Members → Option Members) : List Members → Option (List Members)
  | [] => none
  | [last] => do return [← change last]
  | first :: rest => do return first :: (← changeLast change rest)

/-- Whether a way may lead into a table, given how the tables that it opens
come about. -/
def mayEnter (opened inner : Origin) : Bool :=
  match opened with
  | .dotted => inner = .dotted || inner = .passed
  | _ => inner ≠ .braces

/-- Changes the table at the end of a path. Missing tables are opened. -/
def changeAt (opened : Origin) (change : Origin → Members → Option Members) :
    (path : List String) → Origin → Members → Option Members
  | [], origin, members => change origin members
  | name :: path, _, members =>
      match members.lookup name with
      | none => do
          Members.add name (.table opened (← changeAt opened change path opened [])) members
      | some (.table inner nested) => do
          if !mayEnter opened inner then none
          return Members.replace name
            (.table inner (← changeAt opened change path inner nested)) members
      | some (.tables elements) => do
          return Members.replace name
            (.tables (← changeLast (changeAt opened change path .header) elements)) members
      | some _ => none

/-- Adds a key with its value to a table. -/
def addEntry (origin : Origin) (members : Members) (key : Key) (value : Toml) :
    Option Members :=
  let atEnd := fun origin (members : Members) =>
    if !key.path.isEmpty && origin ≠ Origin.dotted then none
    else members.add key.name value
  changeAt .dotted atEnd key.path origin members

/-- Adds several keys. -/
def addEntries (origin : Origin) (members : Members) (entries : List (Key × Toml)) :
    Option Members :=
  entries.foldlM (fun members (key, value) => addEntry origin members key value) members

/-- Opens the table that a header names and adds its entries. -/
def openTable (key : Key) (entries : List (Key × Toml)) (document : Members) :
    Option Members :=
  let atEnd := fun (_ : Origin) (members : Members) =>
    match members.lookup key.name with
    | none => do
        members.add key.name (.table .header (← addEntries .header [] entries))
    | some (.table .passed nested) => do
        return members.replace key.name (.table .header (← addEntries .header nested entries))
    | some _ => none
  changeAt .passed atEnd key.path .header document

/-- Opens one more table of a repeated header and adds its entries. -/
def appendTable (key : Key) (entries : List (Key × Toml)) (document : Members) :
    Option Members :=
  let atEnd := fun (_ : Origin) (members : Members) => do
    let table ← addEntries .header [] entries
    match members.lookup key.name with
    | none => members.add key.name (.tables [table])
    | some (.tables elements) => members.replace key.name (.tables (elements ++ [table]))
    | some _ => none
  changeAt .passed atEnd key.path .header document

end HeaderRelay.Toml
