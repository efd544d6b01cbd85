import Intcode.Text.DefaultIgnorable
import Intcode.Text.GraphemeExtend
import Intcode.Text.Unprintable

/-!
# Quoted text

A text between double quotes on a single line.  Quotes and backslashes follow a backslash, NUL,
tab, line feed and carriage return are written by a letter, and any other character that would not
show by itself is written by its code point.
-/

namespace Intcode.Text

namespace Quoted

/-- The escape of a code point: lower case hexadecimal digits without padding, in braces. -/
def codePoint (char : Char) : List Char :=
  '\\' :: 'u' :: '{' :: Nat.toDigits 16 char.toNat ++ ['}']

/-- The halfwidth voiced and semi-voiced sound marks: the two letters among the extenders. -/
def isSoundMark (char : Char) : Bool :=
  char == '\uFF9E' || char == '\uFF9F'

/-- An extender joins the character before it, unless it is a sound mark, which has a width of its
own. -/
def isJoining (char : Char) : Bool :=
  isExtender char && !isSoundMark char

/-- A character is hidden when it joins the character before it, when it is ignored by default, or
when it has no printed form. -/
def isHidden (char : Char) : Bool :=
  isJoining char || isIgnorable char || isUnprintable char

def escape (char : Char) : List Char :=
  match char with
  | '"' => ['\\', '"']
  | '\\' => ['\\', '\\']
  | '\x00' => ['\\', '0']
  | '\t' => ['\\', 't']
  | '\n' => ['\\', 'n']
  | '\r' => ['\\', 'r']
  | _ => if isHidden char then codePoint char else [char]

def escapeAll (text : List Char) : List Char :=
  text.flatMap escape

def encode (text : List Char) : List Char :=
  '"' :: escapeAll text ++ ['"']

@[simp] theorem escapeAll_cons (char : Char) (text : List Char) :
    escapeAll (char :: text) = escape char ++ escapeAll text :=
  rfl

end Quoted

end Intcode.Text
