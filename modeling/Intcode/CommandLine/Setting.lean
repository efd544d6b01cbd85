import Intcode.Cache

/-!
# Settings

The options of the commands.  Each takes a value, has a long name and perhaps a letter, and accepts
only some values.
-/

namespace Intcode

inductive Setting where
  | input
  | line
  | prompt
  | year
  | day
  | inputDirectory
  deriving DecidableEq, Repr

namespace Setting

def name : Setting → String
  | input => "input"
  | line => "line"
  | prompt => "prompt"
  | year => "year"
  | day => "day"
  | inputDirectory => "input-dir"

def letter? : Setting → Option Char
  | input => some 'i'
  | line => some 'l'
  | prompt | year | day | inputDirectory => none

def repeats : Setting → Bool
  | line => true
  | input | prompt | year | day | inputDirectory => false

def readBounded? (largest : Nat) (text : String) : Option Nat :=
  match Decimal.read? text.toList with
  | some (.ofNat value) => if value ≤ largest then some value else none
  | some (.negSucc _) | none => none

/-- A year is at most 65535. -/
def readYear? (text : String) : Option UInt16 :=
  (readBounded? 65535 text).map UInt16.ofNat

def readDay? (text : String) : Option UInt8 :=
  (readBounded? 255 text).map UInt8.ofNat

/-- Whether the option takes a value: years and days are numbers in bounds, and a directory has a
name. -/
def accepts (setting : Setting) (value : String) : Bool :=
  match setting with
  | year => (readYear? value).isSome
  | day => (readDay? value).isSome
  | inputDirectory => value != ""
  | input | line | prompt => true

end Setting

end Intcode
