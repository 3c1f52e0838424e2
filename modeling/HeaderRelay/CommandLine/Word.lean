/-!
# Words of a command line

A word that starts with a hyphen names an option; the word `--` ends all
options; every other word, a lone hyphen included, is an operand.  The value of
an option is the next word, unless it is attached: behind an equals sign, or
directly behind the letter of an option.
-/

namespace HeaderRelay.CommandLine

/-- An option, which always has a value. -/
structure Flag where
  /-- The name behind two hyphens. -/
  name : String
  /-- The letter behind one hyphen. -/
  letter : Option Char := none
  /-- Whether the option may be given more than once. -/
  repeatable : Bool := false
  deriving DecidableEq, Repr

/-- An option that is given with a value. -/
structure Given where
  flag : Flag
  value : String
  deriving DecidableEq, Repr

/-- The role of a word. -/
inductive Word where
  | terminator
  | operand
  /-- An option whose value is the next word. -/
  | opening (flag : Flag)
  | complete (given : Given)
  /-- An option that does not exist. -/
  | unknown
  deriving DecidableEq, Repr

namespace Word

/-- An option with the value that is attached to its name, or without one. -/
def ofFlag (flag? : Option Flag) (attached : Option (List Char)) : Word :=
  match flag?, attached with
  | none, _ => .unknown
  | some flag, none => .opening flag
  | some flag, some value => .complete ⟨flag, String.ofList value⟩

/-- Splits a name from the value behind an equals sign. -/
def splitName (characters : List Char) : String × Option (List Char) :=
  let name := characters.takeWhile (· ≠ '=')
  match characters.drop name.length with
  | [] => (String.ofList name, none)
  | _ :: value => (String.ofList name, some value)

/-- The value attached to the letter of an option. -/
def attachedToLetter : List Char → Option (List Char)
  | [] => none
  | '=' :: value => some value
  | value => some value

/-- The role of a word among the given options. -/
def ofString (flags : List Flag) (word : String) : Word :=
  match word.toList with
  | ['-', '-'] => .terminator
  | '-' :: '-' :: characters =>
      let (name, attached) := splitName characters
      ofFlag (flags.find? fun flag => flag.name = name) attached
  | '-' :: letter :: characters =>
      ofFlag (flags.find? fun flag => flag.letter = some letter)
        (attachedToLetter characters)
  | _ => .operand

end Word

/-- Whether a word of its own can be the value of an option. -/
def isValue (word : String) : Bool :=
  match word.toList with
  | '-' :: _ :: _ => false
  | _ => true

/-- Takes the options at the front. Fails if one of them does not exist or has
no value. -/
def takeOptions (flags : List Flag) : List String → Option (List Given × List String)
  | [] => some ([], [])
  | [word] =>
      match Word.ofString flags word with
      | .terminator | .operand => some ([], [word])
      | .complete given => some ([given], [])
      | .opening _ | .unknown => none
  | word :: next :: rest =>
      match Word.ofString flags word with
      | .terminator | .operand => some ([], word :: next :: rest)
      | .unknown => none
      | .complete given => do
          let (later, left) ← takeOptions flags (next :: rest)
          return (given :: later, left)
      | .opening flag =>
          if isValue next then do
            let (later, left) ← takeOptions flags rest
            return (⟨flag, next⟩ :: later, left)
          else none

/-- Options and operands, each in the order in which they are given. -/
structure Sorted where
  options : List Given
  operands : List String
  deriving DecidableEq, Repr

namespace Sorted

/-- Sorts words of which fewer than `count` are operands. -/
def ofWords? (flags : List Flag) : (count : Nat) → List String → Option Sorted
  | 0, _ => none
  | count + 1, words => do
      let (options, left) ← takeOptions flags words
      match left with
      | [] => return ⟨options, []⟩
      | "--" :: operands => return ⟨options, operands⟩
      | operand :: later =>
          let sorted ← ofWords? flags count later
          return ⟨options ++ sorted.options, operand :: sorted.operands⟩

/-- Sorts all words. -/
def ofWords (flags : List Flag) (words : List String) : Option Sorted :=
  ofWords? flags (words.length + 1) words

end Sorted

/-- Whether no option is given twice that must not be. -/
def areSingle (given : List Given) : Bool :=
  match given with
  | [] => true
  | first :: rest =>
      (first.flag.repeatable || rest.all fun other => other.flag ≠ first.flag) &&
        areSingle rest

/-- The values given to an option. -/
def valuesOf (name : String) (given : List Given) : List String :=
  (given.filter fun option => option.flag.name = name).map Given.value

/-- The value of an option that may be missing. -/
def valueOf? (name : String) (given : List Given) : Option String :=
  (valuesOf name given).head?

end HeaderRelay.CommandLine
