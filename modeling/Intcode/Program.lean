import Intcode.Fault
import Intcode.Text.Blank

/-!
# Programs

A program is a list of integers.  Its text separates them by commas; blanks may stand around the
whole text and around each integer.  A text of blanks alone is the program without cells.
-/

namespace Intcode

/-- The initial cells of a machine's memory, from address zero on. -/
structure Program where
  cells : List Int
  deriving DecidableEq, Repr

namespace Program

/-- Reads each piece of a text as one integer between blanks, and faults at the first that is
none.  The first piece counts as the given cell. -/
def readCells (cell : Nat) : List (List Char) → Except Fault (List Int)
  | [] => .ok []
  | piece :: rest =>
      match Decimal.read? (Text.trimBlanks piece) with
      | none => .error (.malformedProgram cell (String.ofList (Text.trimBlanks piece)))
      | some value => (readCells (cell + 1) rest).map (value :: ·)

def parseCells (text : List Char) : Except Fault (List Int) :=
  match Text.trimBlanks text with
  | [] => .ok []
  | trimmed => readCells 0 (trimmed.splitOn ',')

def parse (text : String) : Except Fault Program :=
  (parseCells text.toList).map Program.mk

def render (program : Program) : String :=
  String.ofList (List.intercalate [','] (program.cells.map Decimal.render))

def isEmpty (program : Program) : Bool :=
  program.cells.isEmpty

@[simp] theorem readCells_nil (cell : Nat) : readCells cell [] = .ok [] :=
  rfl

theorem readCells_cons_of_none
    {cell : Nat} {piece : List Char} (unreadable : Decimal.read? (Text.trimBlanks piece) = none)
    (rest : List (List Char)) :
    readCells cell (piece :: rest) =
      .error (.malformedProgram cell (String.ofList (Text.trimBlanks piece))) := by
  simp [readCells, unreadable]

theorem readCells_cons_of_some
    {cell : Nat} {piece : List Char} {value : Int}
    (readable : Decimal.read? (Text.trimBlanks piece) = some value) (rest : List (List Char)) :
    readCells cell (piece :: rest) = (readCells (cell + 1) rest).map (value :: ·) := by
  simp [readCells, readable]

end Program

end Intcode
