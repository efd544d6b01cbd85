import Mathlib.Data.Nat.Init
import Mathlib.Order.Basic
import Intcode.Text.Quoted

/-!
# Reading quoted text

Quoted text is read from its opening quote to its closing one, character by character.  A backslash
starts an escape, and an escape tells by itself where it ends, so the text between the quotes is
read back whatever it is made of, and what stands behind it is left.  No character of quoted text
breaks the line.
-/

namespace Intcode.Text

def isLineBreak (char : Char) : Bool :=
  ['\n', '\x0B', '\x0C', '\r', '\u0085', '\u2028', '\u2029'].contains char

def isLine (text : List Char) : Bool :=
  text.all fun char => !isLineBreak char

theorem isLine_iff {text : List Char} :
    isLine text = true ↔ ∀ char ∈ text, isLineBreak char = false := by
  simp only [isLine, List.all_eq_true, Bool.not_eq_true']

@[simp] theorem isLine_append (first second : List Char) :
    isLine (first ++ second) = (isLine first && isLine second) :=
  List.all_append

namespace Quoted

/-! ## Reading -/

def hexValue? (char : Char) : Option Nat :=
  (List.range 16).find? fun value => Nat.digitChar value = char

def named? (char : Char) : Option Char :=
  ['"', '\\', '\x00', '\t', '\n', '\r'].find? fun escaped => escape escaped = ['\\', char]

/-- What has been read of an escape. -/
inductive Reading where
  /-- Nothing: the next character stands for itself, starts an escape or is the closing quote. -/
  | none
  | backslash
  | letter
  /-- The digits of a code point so far. -/
  | digits (value : Nat)

/-- Reads quoted text up to its closing quote: the text, and what is left behind the quote. -/
def decodeFrom? : Reading → List Char → Option (List Char × List Char)
  | _, [] => Option.none
  | .none, char :: rest =>
      if char = '"' then
        some ([], rest)
      else if char = '\\' then
        decodeFrom? .backslash rest
      else
        (decodeFrom? .none rest).map fun (text, left) => (char :: text, left)
  | .backslash, char :: rest =>
      if char = 'u' then
        decodeFrom? .letter rest
      else
        (named? char).bind fun escaped =>
          (decodeFrom? .none rest).map fun (text, left) => (escaped :: text, left)
  | .letter, char :: rest =>
      if char = '{' then decodeFrom? (.digits 0) rest else Option.none
  | .digits value, char :: rest =>
      if char = '}' then
        (decodeFrom? .none rest).map fun (text, left) => (Char.ofNat value :: text, left)
      else
        (hexValue? char).bind fun digit => decodeFrom? (.digits (16 * value + digit)) rest

def decode? : List Char → Option (List Char × List Char)
  | '"' :: rest => decodeFrom? .none rest
  | _ => Option.none

theorem hexValue?_digitChar {digit : Nat} (small : digit < 16) :
    hexValue? (Nat.digitChar digit) = some digit := by
  have all : ∀ digit < 16, hexValue? (Nat.digitChar digit) = some digit := by decide
  exact all digit small

theorem digitChar_ne_brace {digit : Nat} (small : digit < 16) : Nat.digitChar digit ≠ '}' := by
  have all : ∀ digit < 16, Nat.digitChar digit ≠ '}' := by decide
  exact all digit small

theorem decodeFrom?_digit {digit : Nat} (small : digit < 16) (value : Nat) (rest : List Char) :
    decodeFrom? (.digits value) (Nat.digitChar digit :: rest) =
      decodeFrom? (.digits (16 * value + digit)) rest := by
  rw [decodeFrom?, if_neg (digitChar_ne_brace small), hexValue?_digitChar small]
  rfl

/-- The digits of a number are read as the number. -/
theorem decodeFrom?_toDigits (value : Nat) (rest : List Char) :
    decodeFrom? (.digits 0) (Nat.toDigits 16 value ++ rest) = decodeFrom? (.digits value) rest := by
  induction value using Nat.strong_induction_on generalizing rest with
  | h value ih =>
      by_cases small : value < 16
      · rw [Nat.toDigits_of_lt_base small, List.singleton_append, decodeFrom?_digit small,
          Nat.mul_zero, Nat.zero_add]
      · have higher : value / 16 < value := Nat.div_lt_self (by omega) (by decide)
        have lower : value % 16 < 16 := Nat.mod_lt _ (by decide)
        rw [Nat.toDigits_of_base_le (by decide) (Nat.le_of_not_lt small), List.append_assoc,
          ih _ higher, List.singleton_append, decodeFrom?_digit lower, Nat.div_add_mod]

theorem decodeFrom?_codePoint (char : Char) (rest : List Char) :
    decodeFrom? .none (codePoint char ++ rest) =
      (decodeFrom? .none rest).map fun (text, left) => (char :: text, left) := by
  change decodeFrom? (.digits 0) ((Nat.toDigits 16 char.toNat ++ ['}']) ++ rest) = _
  rw [List.append_assoc, decodeFrom?_toDigits, List.singleton_append, decodeFrom?, if_pos rfl,
    Char.ofNat_toNat]

/-- What is written for a character is read as that character. -/
theorem decodeFrom?_escape (char : Char) (rest : List Char) :
    decodeFrom? .none (escape char ++ rest) =
      (decodeFrom? .none rest).map fun (text, left) => (char :: text, left) := by
  unfold escape
  split
  · rfl
  · rfl
  · rfl
  · rfl
  · rfl
  · rfl
  · next quote backslash _ _ _ _ =>
      split
      · exact decodeFrom?_codePoint char rest
      · rw [List.singleton_append, decodeFrom?, if_neg quote, if_neg backslash]

theorem decodeFrom?_escapeAll (text rest : List Char) :
    decodeFrom? .none (escapeAll text ++ '"' :: rest) = some (text, rest) := by
  induction text with
  | nil => rfl
  | cons char text ih =>
      rw [escapeAll_cons, List.append_assoc, decodeFrom?_escape, ih]
      rfl

/-- Quoted text is read back, and what stands behind it is left. -/
theorem decode?_encode_append (text rest : List Char) :
    decode? (encode text ++ rest) = some (text, rest) := by
  have whole : encode text ++ rest = '"' :: (escapeAll text ++ '"' :: rest) := by simp [encode]
  rw [whole, decode?, decodeFrom?_escapeAll]

/-! ## On one line -/

/-- The characters at which a line ends are escaped by a letter, or hidden. -/
theorem isHidden_of_isLineBreak {char : Char} (breaks : isLineBreak char = true)
    (lineFeed : char ≠ '\n') (carriageReturn : char ≠ '\r') : isHidden char = true := by
  have all : ['\x0B', '\x0C', '\u0085', '\u2028', '\u2029'].all isHidden = true := by
    decide +kernel
  apply List.all_eq_true.1 all
  simpa [isLineBreak, lineFeed, carriageReturn] using breaks

theorem isLine_digitChar {digit : Nat} (small : digit < 16) :
    isLine [Nat.digitChar digit] = true := by
  have all : ∀ digit < 16, isLine [Nat.digitChar digit] = true := by decide
  exact all digit small

theorem isLine_toDigits (value : Nat) : isLine (Nat.toDigits 16 value) = true := by
  induction value using Nat.strong_induction_on with
  | h value ih =>
      by_cases small : value < 16
      · rw [Nat.toDigits_of_lt_base small]
        exact isLine_digitChar small
      · have higher : value / 16 < value := Nat.div_lt_self (by omega) (by decide)
        rw [Nat.toDigits_of_base_le (by decide) (Nat.le_of_not_lt small), isLine_append,
          ih _ higher, isLine_digitChar (Nat.mod_lt _ (by decide))]
        rfl

theorem isLine_escape (char : Char) : isLine (escape char) = true := by
  unfold escape
  split
  · rfl
  · rfl
  · rfl
  · rfl
  · rfl
  · rfl
  · next _ _ _ _ lineFeed carriageReturn =>
      split
      · change isLine (['\\', 'u', '{'] ++ (Nat.toDigits 16 char.toNat ++ ['}'])) = true
        rw [isLine_append, isLine_append, isLine_toDigits]
        rfl
      · next shown =>
          apply isLine_iff.2
          intro written listed
          rw [List.mem_singleton.1 listed]
          by_contra kept
          have breaks : isLineBreak char = true := Bool.of_not_eq_false kept
          exact shown (isHidden_of_isLineBreak breaks lineFeed carriageReturn)

theorem isLine_escapeAll (text : List Char) : isLine (escapeAll text) = true := by
  induction text with
  | nil => rfl
  | cons char text ih =>
      rw [escapeAll_cons, isLine_append, isLine_escape, ih]
      rfl

/-- Quoted text stays on its line. -/
theorem isLine_encode (text : List Char) : isLine (encode text) = true := by
  change isLine (['"'] ++ (escapeAll text ++ ['"'])) = true
  rw [isLine_append, isLine_append, isLine_escapeAll]
  rfl

end Quoted

end Intcode.Text
