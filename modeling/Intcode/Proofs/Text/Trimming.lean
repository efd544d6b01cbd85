import Mathlib.Data.List.DropRight
import Intcode.Text.Blank

/-!
# Trimming blanks

A text is stripped to a core when nothing but blanks stands around the core and no blank at its
ends.  Every text has exactly one core, and it is what trimming leaves; blanks that are put before
or behind a text make no difference to that.
-/

namespace Intcode.Text

/-! ## Trimming a class of characters -/

section Trim

variable {isMember : Char → Bool}

theorem trimEnd_eq_rdropWhile (text : List Char) :
    trimEnd isMember text = text.rdropWhile isMember :=
  rfl

theorem trimEnd_append_members
    {after : List Char} (members : ∀ char ∈ after, isMember char = true) (text : List Char) :
    trimEnd isMember (text ++ after) = trimEnd isMember text := by
  have members' : ∀ char ∈ after.reverse, isMember char = true :=
    fun char listed => members char (List.mem_reverse.1 listed)
  unfold trimEnd
  rw [List.reverse_append, List.dropWhile_append_of_pos members']

theorem trim_members_append
    {before : List Char} (members : ∀ char ∈ before, isMember char = true) (text : List Char) :
    trim isMember (before ++ text) = trim isMember text := by
  unfold trim
  rw [List.dropWhile_append_of_pos members]

theorem trim_append_members
    {after : List Char} (members : ∀ char ∈ after, isMember char = true) (text : List Char) :
    trim isMember (text ++ after) = trim isMember text := by
  induction text with
  | nil => rw [List.nil_append, ← List.append_nil after, trim_members_append members]
  | cons char text ih =>
      by_cases member : isMember char = true
      · simp only [trim, List.cons_append, List.dropWhile_cons, member, if_true] at ih ⊢
        exact ih
      · simp only [trim, List.cons_append, List.dropWhile_cons, member]
        exact trimEnd_append_members members (char :: text)

/-- What trimming takes from the end of a text are members of the class. -/
theorem exists_eq_trimEnd_append (isMember : Char → Bool) (text : List Char) :
    ∃ after, text = trimEnd isMember text ++ after ∧ ∀ char ∈ after, isMember char = true :=
  ⟨text.rtakeWhile isMember, List.rdropWhile_append_rtakeWhile.symm,
    fun _ => List.mem_rtakeWhile_imp⟩

theorem exists_eq_append_trim (isMember : Char → Bool) (text : List Char) :
    ∃ before after, text = before ++ trim isMember text ++ after ∧
      (∀ char ∈ before, isMember char = true) ∧ ∀ char ∈ after, isMember char = true := by
  obtain ⟨after, whole, members⟩ := exists_eq_trimEnd_append isMember (text.dropWhile isMember)
  refine ⟨text.takeWhile isMember, after, ?_, fun char => List.mem_takeWhile_imp, members⟩
  rw [trim, List.append_assoc, ← whole, List.takeWhile_append_dropWhile]

/-- A trimmed text does not start with a member of the class. -/
theorem not_member_of_head?_trim
    {text : List Char} {char : Char} (leads : (trim isMember text).head? = some char) :
    isMember char = false := by
  have isPrefix : trim isMember text <+: text.dropWhile isMember :=
    List.rdropWhile_prefix isMember _
  have first : (text.dropWhile isMember).head? = some char := by
    obtain ⟨rest, whole⟩ := isPrefix
    rw [← whole, List.head?_append, leads]
    rfl
  have left := List.head?_dropWhile_not isMember text
  rw [first] at left
  exact left

theorem not_member_of_getLast?_trimEnd
    {text : List Char} {char : Char} (ends : (trimEnd isMember text).getLast? = some char) :
    isMember char = false := by
  have nonempty : trimEnd isMember text ≠ [] := by
    intro empty
    rw [empty] at ends
    cases ends
  rw [List.getLast?_eq_some_getLast nonempty] at ends
  cases ends
  exact Bool.eq_false_iff.2 (List.rdropWhile_last_not isMember _ nonempty)

/-- Nor does it end with one. -/
theorem not_member_of_getLast?_trim
    {text : List Char} {char : Char} (ends : (trim isMember text).getLast? = some char) :
    isMember char = false :=
  not_member_of_getLast?_trimEnd ends

theorem trimEnd_eq_self
    {text : List Char} (last : ∀ char, text.getLast? = some char → isMember char = false) :
    trimEnd isMember text = text := by
  rw [trimEnd_eq_rdropWhile, List.rdropWhile_eq_self_iff]
  intro nonempty
  rw [last _ (List.getLast?_eq_some_getLast nonempty)]
  exact Bool.false_ne_true

/-- A text that neither starts nor ends with a member of the class is trimmed already. -/
theorem trim_eq_self
    {text : List Char} (first : ∀ char, text.head? = some char → isMember char = false)
    (last : ∀ char, text.getLast? = some char → isMember char = false) :
    trim isMember text = text := by
  have kept : text.dropWhile isMember = text := by
    cases text with
    | nil => rfl
    | cons char text =>
        have outside : isMember char = false := first char rfl
        simp [outside]
  rw [trim, kept, trimEnd_eq_self last]

end Trim

/-! ## The core of a text -/

def Blank (text : List Char) : Prop :=
  ∀ char ∈ text, isBlank char = true

/-- A text with blanks around a core that has no blank at its ends. -/
structure Strips (text core : List Char) : Prop where
  around : ∃ before after, text = before ++ core ++ after ∧ Blank before ∧ Blank after
  first (char : Char) (leads : core.head? = some char) : isBlank char = false
  last (char : Char) (ends : core.getLast? = some char) : isBlank char = false

theorem strips_trimBlanks (text : List Char) : Strips text (trimBlanks text) where
  around := exists_eq_append_trim isBlank text
  first _ leads := not_member_of_head?_trim leads
  last _ ends := not_member_of_getLast?_trim ends

theorem trimBlanks_blank_append {before : List Char} (blank : Blank before) (text : List Char) :
    trimBlanks (before ++ text) = trimBlanks text :=
  trim_members_append blank text

theorem trimBlanks_append_blank {after : List Char} (blank : Blank after) (text : List Char) :
    trimBlanks (text ++ after) = trimBlanks text :=
  trim_append_members blank text

/-- Trimming leaves the core of a text. -/
theorem strips_iff {text core : List Char} : Strips text core ↔ trimBlanks text = core := by
  constructor
  · rintro ⟨⟨before, after, rfl, blankBefore, blankAfter⟩, first, last⟩
    rw [trimBlanks_append_blank blankAfter, trimBlanks_blank_append blankBefore]
    exact trim_eq_self first last
  · rintro rfl
    exact strips_trimBlanks text

theorem trimBlanks_eq_nil_iff {text : List Char} : trimBlanks text = [] ↔ Blank text := by
  constructor
  · intro nothing
    obtain ⟨before, after, whole, blankBefore, blankAfter⟩ := (strips_trimBlanks text).around
    rw [nothing, List.append_nil] at whole
    intro char listed
    rw [whole] at listed
    rcases List.mem_append.1 listed with early | late
    · exact blankBefore char early
    · exact blankAfter char late
  · intro blank
    have trimmed := trimBlanks_append_blank blank []
    rw [List.nil_append] at trimmed
    rw [trimmed]
    rfl

end Intcode.Text
