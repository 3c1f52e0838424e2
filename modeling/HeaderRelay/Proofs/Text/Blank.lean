import HeaderRelay.Text.Blank
import Mathlib.Data.List.DropRight
import Mathlib.Data.List.TakeWhile

/-!
# What trimming leaves

Trimming splits a text into blanks, a middle part and blanks.  The middle part begins
and ends with characters that are not blank, and there is no other way to split the
text like that.
-/

namespace HeaderRelay.Text

variable {characters core before after : List Char}

/-- Whether all characters of a text are blank. -/
def IsBlank (characters : List Char) : Prop :=
  ∀ character ∈ characters, isBlank character = true

instance : DecidablePred IsBlank := fun characters =>
  List.decidableBAll (fun character => isBlank character = true) characters

/-- Whether a text is another one without the blanks at both ends. -/
structure TrimsTo (characters core : List Char) : Prop where
  split : ∃ before after, characters = before ++ core ++ after ∧ IsBlank before ∧ IsBlank after
  first : ∀ character ∈ core.head?, isBlank character = false
  last : ∀ character ∈ core.getLast?, isBlank character = false

theorem trimStart_eq_self (first : ∀ character ∈ core.head?, isBlank character = false) :
    trimStart core = core := by
  cases core with
  | nil => rfl
  | cons character rest => exact List.dropWhile_cons_of_neg (by simp [first character rfl])

theorem trimEnd_eq_self (last : ∀ character ∈ core.getLast?, isBlank character = false) :
    trimEnd core = core := by
  have same : trimStart core.reverse = core.reverse := trimStart_eq_self (by simpa using last)
  rw [trimStart] at same
  rw [trimEnd, same, List.reverse_reverse]

theorem trimStart_append (blank : IsBlank before) (characters : List Char) :
    trimStart (before ++ characters) = trimStart characters :=
  List.dropWhile_append_of_pos blank

theorem trimEnd_append (characters : List Char) (blank : IsBlank after) :
    trimEnd (characters ++ after) = trimEnd characters := by
  have blankReverse : IsBlank after.reverse :=
    fun character member => blank character (List.mem_reverse.mp member)
  have dropped := trimStart_append blankReverse characters.reverse
  rw [trimStart, trimStart, ← List.reverse_append] at dropped
  rw [trimEnd, trimEnd, dropped]

theorem head?_trimStart (characters : List Char) :
    ∀ character ∈ (trimStart characters).head?, isBlank character = false := by
  intro character first
  have plain := List.head?_dropWhile_not isBlank characters
  rw [← trimStart, first] at plain
  exact plain

/-- Trimming the end brings no blank to the start. -/
theorem head?_trim (characters : List Char) :
    ∀ character ∈ (trim characters).head?, isBlank character = false := by
  intro character first
  obtain ⟨rest, shorter⟩ := List.head?_eq_some_iff.mp first
  obtain ⟨after, whole⟩ : trim characters <+: trimStart characters :=
    List.rdropWhile_prefix isBlank _
  apply head?_trimStart characters
  rw [← whole, shorter]
  rfl

theorem getLast?_trim (characters : List Char) :
    ∀ character ∈ (trim characters).getLast?, isBlank character = false := by
  have first := head?_trimStart (trimStart characters).reverse
  rw [← List.getLast?_reverse] at first
  exact first

theorem trimsTo_trim (characters : List Char) : TrimsTo characters (trim characters) where
  split := by
    refine ⟨characters.takeWhile isBlank, (trimStart characters).rtakeWhile isBlank, ?_,
      fun _ => List.mem_takeWhile_imp, fun _ => List.mem_rtakeWhile_imp⟩
    have inner : trim characters ++ (trimStart characters).rtakeWhile isBlank =
        trimStart characters := List.rdropWhile_append_rtakeWhile
    rw [List.append_assoc, inner]
    exact List.takeWhile_append_dropWhile.symm
  first := head?_trim characters
  last := getLast?_trim characters

theorem TrimsTo.trim_eq (trims : TrimsTo characters core) : trim characters = core := by
  obtain ⟨⟨before, after, rfl, blankBefore, blankAfter⟩, first, last⟩ := trims
  rw [trim, List.append_assoc, trimStart_append blankBefore]
  cases core with
  | nil =>
      -- With nothing in the middle, the blanks behind it come off at the start already.
      have gone := trimStart_append blankAfter []
      rw [List.append_nil] at gone
      rw [List.nil_append, gone]
      rfl
  | cons character rest =>
      rw [trimStart_eq_self (by simpa using first), trimEnd_append _ blankAfter,
        trimEnd_eq_self last]

theorem trimsTo_iff : TrimsTo characters core ↔ trim characters = core :=
  ⟨TrimsTo.trim_eq, fun trimmed => trimmed ▸ trimsTo_trim characters⟩

/-- Blanks around a text without blanks come off, and nothing else. -/
theorem TrimsTo.of_plain (blankBefore : IsBlank before) (blankAfter : IsBlank after)
    (plain : ∀ character ∈ core, isBlank character = false) :
    TrimsTo (before ++ core ++ after) core where
  split := ⟨before, after, rfl, blankBefore, blankAfter⟩
  first := fun character first => plain character (List.mem_of_head? first)
  last := fun character last => plain character (List.mem_of_getLast? last)

end HeaderRelay.Text
