/-!
# Decimal integers

Integers as decimal text.  The written form has a minus sign for a negative value, no plus sign and
no leading zeros.  Reading also takes a plus sign and leading zeros, and nothing else: digits are
the ten ASCII ones.
-/

namespace Intcode

namespace Decimal

def render : Int → List Char
  | .ofNat magnitude => Nat.toDigits 10 magnitude
  | .negSucc magnitude => '-' :: Nat.toDigits 10 (magnitude + 1)

def text (value : Int) : String :=
  String.ofList (render value)

/-- The value of a nonempty run of ASCII digits. -/
def readDigits? (digits : List Char) : Option Nat :=
  if digits ≠ [] ∧ digits.all Char.isDigit then
    some (Nat.ofDigitChars 10 digits 0)
  else
    none

def read? : List Char → Option Int
  | '+' :: digits => (readDigits? digits).map Int.ofNat
  | '-' :: digits => (readDigits? digits).map fun magnitude => -(magnitude : Int)
  | digits => (readDigits? digits).map Int.ofNat

theorem readDigits?_toDigits (magnitude : Nat) :
    readDigits? (Nat.toDigits 10 magnitude) = some magnitude := by
  have digits : ∀ char ∈ Nat.toDigits 10 magnitude, char.isDigit = true :=
    fun char member => Nat.isDigit_of_mem_toDigits (by decide) (by decide) member
  have nonempty : Nat.toDigits 10 magnitude ≠ [] := Nat.toDigits_ne_nil
  simp [readDigits?, nonempty, List.all_eq_true.2 digits]

/-- A run of digits starts with neither sign, so it reads as the number it was written for. -/
theorem read?_toDigits (magnitude : Nat) :
    read? (Nat.toDigits 10 magnitude) = some (magnitude : Int) := by
  have digits : ∀ char ∈ Nat.toDigits 10 magnitude, char.isDigit = true :=
    fun char member => Nat.isDigit_of_mem_toDigits (by decide) (by decide) member
  have readable := readDigits?_toDigits magnitude
  revert digits readable
  cases Nat.toDigits 10 magnitude with
  | nil =>
      intro _ readable
      cases readable
  | cons first rest =>
      intro digits readable
      have digit : first.isDigit = true := digits first List.mem_cons_self
      unfold read?
      split
      · next same =>
          obtain ⟨rfl, rfl⟩ := List.cons.inj same
          cases digit
      · next same =>
          obtain ⟨rfl, rfl⟩ := List.cons.inj same
          cases digit
      · rw [readable]
        rfl

/-- The written form of an integer reads back as that integer. -/
theorem read?_render (value : Int) : read? (render value) = some value := by
  cases value with
  | ofNat magnitude => exact read?_toDigits magnitude
  | negSucc magnitude =>
      simp only [render, read?, readDigits?_toDigits]
      rfl

end Decimal

end Intcode
