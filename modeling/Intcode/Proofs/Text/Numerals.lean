import Mathlib.Data.List.Induction
import Intcode.Decimal
import Intcode.Text.Blank

/-!
# Numerals

A numeral is a run of decimal digits, with a sign before it or without one, and has the value that
the digits spell.  Decimal text is read as an integer exactly when it is a numeral of that value.
-/

namespace Intcode

namespace Decimal

/-- A nonempty run of ASCII digits spells a number, the last digit counting its units. -/
inductive Digits : List Char → Nat → Prop where
  | unit {digit : Nat} (small : digit < 10) : Digits [Nat.digitChar digit] digit
  | append {digits : List Char} {value digit : Nat} (higher : Digits digits value)
      (small : digit < 10) : Digits (digits ++ [Nat.digitChar digit]) (10 * value + digit)

inductive Numeral : List Char → Int → Prop where
  | unsigned {digits : List Char} {value : Nat} (spelled : Digits digits value) :
      Numeral digits value
  | plus {digits : List Char} {value : Nat} (spelled : Digits digits value) :
      Numeral ('+' :: digits) value
  | minus {digits : List Char} {value : Nat} (spelled : Digits digits value) :
      Numeral ('-' :: digits) (-value)

/-! ## Digits -/

/-- A digit character is the character of a number below ten. -/
theorem exists_digitChar {char : Char} (isDigit : char.isDigit = true) :
    ∃ digit < 10, Nat.digitChar digit = char := by
  have bounds : 48 ≤ char.toNat ∧ char.toNat ≤ 57 := by
    rw [Char.isDigit, Bool.and_eq_true, decide_eq_true_eq, decide_eq_true_eq] at isDigit
    exact isDigit
  refine ⟨char.toNat - 48, by omega, Char.toNat_inj.1 ?_⟩
  rw [Nat.toNat_digitChar_of_lt_ten (by omega)]
  omega

namespace Digits

theorem ne_nil {digits : List Char} {value : Nat} (spelled : Digits digits value) :
    digits ≠ [] := by
  cases spelled with
  | unit small => exact List.cons_ne_nil _ _
  | append higher small => simp

theorem isDigit_of_mem
    {digits : List Char} {value : Nat} (spelled : Digits digits value) :
    ∀ char ∈ digits, char.isDigit = true := by
  induction spelled with
  | unit small =>
      intro char listed
      rw [List.mem_singleton.1 listed, Nat.isDigit_digitChar]
      exact decide_eq_true small
  | append higher small ih =>
      intro char listed
      rcases List.mem_append.1 listed with early | last
      · exact ih char early
      · rw [List.mem_singleton.1 last, Nat.isDigit_digitChar]
        exact decide_eq_true small

theorem ofDigitChars_eq {digits : List Char} {value : Nat} (spelled : Digits digits value) :
    Nat.ofDigitChars 10 digits 0 = value := by
  induction spelled with
  | unit small =>
      rw [Nat.ofDigitChars_cons_digitChar_of_lt_ten small, Nat.ofDigitChars_nil, Nat.mul_zero,
        Nat.zero_add]
  | append higher small ih =>
      rw [Nat.ofDigitChars_append, ih, Nat.ofDigitChars_cons_digitChar_of_lt_ten small,
        Nat.ofDigitChars_nil]

end Digits

/-- A nonempty run of digit characters spells the number that they are read as. -/
theorem digits_ofDigitChars
    {digits : List Char} (nonempty : digits ≠ []) (all : ∀ char ∈ digits, char.isDigit = true) :
    Digits digits (Nat.ofDigitChars 10 digits 0) := by
  induction digits using List.reverseRecOn with
  | nil => contradiction
  | append_singleton digits char ih =>
      obtain ⟨digit, small, rfl⟩ :=
        exists_digitChar (all char (List.mem_append_right _ (List.mem_singleton_self char)))
      rw [Nat.ofDigitChars_append, Nat.ofDigitChars_cons_digitChar_of_lt_ten small,
        Nat.ofDigitChars_nil]
      cases digits with
      | nil =>
          rw [Nat.ofDigitChars_nil, Nat.mul_zero, Nat.zero_add]
          exact .unit small
      | cons first rest =>
          exact .append (ih (List.cons_ne_nil _ _) fun char early =>
            all char (List.mem_append_left _ early)) small

theorem readDigits?_eq_some_iff {digits : List Char} {value : Nat} :
    readDigits? digits = some value ↔ Digits digits value := by
  unfold readDigits?
  constructor
  · intro read
    split at read
    · next run =>
        cases read
        exact digits_ofDigitChars run.1 (List.all_eq_true.1 run.2)
    · cases read
  · intro spelled
    rw [if_pos ⟨spelled.ne_nil, List.all_eq_true.2 spelled.isDigit_of_mem⟩,
      spelled.ofDigitChars_eq]

/-! ## Written digits -/

theorem digits_toDigits (magnitude : Nat) : Digits (Nat.toDigits 10 magnitude) magnitude :=
  readDigits?_eq_some_iff.1 (readDigits?_toDigits magnitude)

/-- A zero in front of digits does not change what they spell. -/
theorem Digits.zero_cons
    {digits : List Char} {value : Nat} (spelled : Digits digits value) :
    Digits ('0' :: digits) value := by
  induction spelled with
  | @unit digit small =>
      have second : Digits (['0'] ++ [Nat.digitChar digit]) (10 * 0 + digit) :=
        .append (.unit (by decide : 0 < 10)) small
      rw [Nat.mul_zero, Nat.zero_add] at second
      exact second
  | append higher small ih => exact .append ih small

theorem Digits.zeros_append
    {digits : List Char} {value : Nat} (spelled : Digits digits value) (zeros : Nat) :
    Digits (List.replicate zeros '0' ++ digits) value := by
  induction zeros with
  | zero => exact spelled
  | succ zeros ih => exact ih.zero_cons

/-! ## Numerals -/

theorem read?_sound {text : List Char} {value : Int} (read : read? text = some value) :
    Numeral text value := by
  unfold read? at read
  split at read
  · obtain ⟨magnitude, readDigits, rfl⟩ := Option.map_eq_some_iff.1 read
    exact .plus (readDigits?_eq_some_iff.1 readDigits)
  · obtain ⟨magnitude, cast, rfl⟩ := Option.map_eq_some_iff.1 read
    obtain ⟨digits, readDigits, same⟩ := Option.bind_eq_some_iff.1 cast
    cases same
    exact .minus (readDigits?_eq_some_iff.1 readDigits)
  · obtain ⟨magnitude, readDigits, rfl⟩ := Option.map_eq_some_iff.1 read
    exact .unsigned (readDigits?_eq_some_iff.1 readDigits)

/-- A text that starts with a digit has no sign. -/
theorem read?_of_isDigit
    {char : Char} {rest : List Char} (isDigit : char.isDigit = true) :
    read? (char :: rest) = (readDigits? (char :: rest)).map Int.ofNat := by
  unfold read?
  split
  · next same =>
      cases same
      cases isDigit
  · next same =>
      cases same
      cases isDigit
  · rfl

theorem read?_complete {text : List Char} {value : Int} (numeral : Numeral text value) :
    read? text = some value := by
  cases numeral with
  | unsigned spelled =>
      cases text with
      | nil => exact absurd rfl spelled.ne_nil
      | cons char rest =>
          rw [read?_of_isDigit (spelled.isDigit_of_mem char List.mem_cons_self),
            readDigits?_eq_some_iff.2 spelled]
          rfl
  | plus spelled =>
      simp only [read?, readDigits?_eq_some_iff.2 spelled]
      rfl
  | minus spelled =>
      simp only [read?, readDigits?_eq_some_iff.2 spelled]
      rfl

theorem read?_eq_some_iff {text : List Char} {value : Int} :
    read? text = some value ↔ Numeral text value :=
  ⟨read?_sound, read?_complete⟩

namespace Numeral

theorem ne_nil {text : List Char} {value : Int} (numeral : Numeral text value) : text ≠ [] := by
  cases numeral with
  | unsigned spelled => exact spelled.ne_nil
  | plus spelled => exact List.cons_ne_nil _ _
  | minus spelled => exact List.cons_ne_nil _ _

theorem char_of_mem
    {text : List Char} {value : Int} (numeral : Numeral text value) {char : Char}
    (listed : char ∈ text) : char.isDigit = true ∨ char = '+' ∨ char = '-' := by
  cases numeral with
  | unsigned spelled => exact .inl (spelled.isDigit_of_mem char listed)
  | plus spelled =>
      rcases List.mem_cons.1 listed with rfl | later
      · exact .inr (.inl rfl)
      · exact .inl (spelled.isDigit_of_mem char later)
  | minus spelled =>
      rcases List.mem_cons.1 listed with rfl | later
      · exact .inr (.inr rfl)
      · exact .inl (spelled.isDigit_of_mem char later)

theorem not_isBlank_of_mem
    {text : List Char} {value : Int} (numeral : Numeral text value) {char : Char}
    (listed : char ∈ text) : Text.isBlank char = false := by
  rcases numeral.char_of_mem listed with isDigit | rfl | rfl
  · obtain ⟨digit, small, rfl⟩ := exists_digitChar isDigit
    have none : ∀ digit < 10, Text.isBlank (Nat.digitChar digit) = false := by decide
    exact none digit small
  · decide
  · decide

theorem comma_not_mem {text : List Char} {value : Int} (numeral : Numeral text value) :
    ',' ∉ text := by
  intro listed
  rcases numeral.char_of_mem listed with isDigit | same | same
  · cases isDigit
  · cases same
  · cases same

end Numeral

theorem char_of_mem_render {value : Int} {char : Char} (listed : char ∈ render value) :
    char.isDigit = true ∨ char = '+' ∨ char = '-' :=
  (read?_eq_some_iff.1 (read?_render value)).char_of_mem listed

end Decimal

end Intcode
