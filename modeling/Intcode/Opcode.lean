/-!
# Opcodes

The ten operations of the machine, their codes, and the number of parameters of each.
-/

namespace Intcode

inductive Opcode where
  | add
  | multiply
  | input
  | output
  | jumpIfTrue
  | jumpIfFalse
  | lessThan
  | equals
  | adjustBase
  | halt
  deriving DecidableEq, Repr

namespace Opcode

/-- The two low decimal digits of the words with this opcode. -/
def code : Opcode → Nat
  | add => 1
  | multiply => 2
  | input => 3
  | output => 4
  | jumpIfTrue => 5
  | jumpIfFalse => 6
  | lessThan => 7
  | equals => 8
  | adjustBase => 9
  | halt => 99

def ofCode? : Int → Option Opcode
  | 1 => some add
  | 2 => some multiply
  | 3 => some input
  | 4 => some output
  | 5 => some jumpIfTrue
  | 6 => some jumpIfFalse
  | 7 => some lessThan
  | 8 => some equals
  | 9 => some adjustBase
  | 99 => some halt
  | _ => none

def arity : Opcode → Nat
  | add | multiply | lessThan | equals => 3
  | jumpIfTrue | jumpIfFalse => 2
  | input | output | adjustBase => 1
  | halt => 0

/-- The index of the parameter that is written through.  It is always the last one. -/
def target? : Opcode → Option Nat
  | add | multiply | lessThan | equals => some 2
  | input => some 0
  | output | jumpIfTrue | jumpIfFalse | adjustBase | halt => none

/-- The number of cells that an instruction takes: its word and its parameters. -/
def width (opcode : Opcode) : Nat :=
  opcode.arity + 1

theorem ofCode?_code (opcode : Opcode) : ofCode? opcode.code = some opcode := by
  cases opcode <;> rfl

theorem ofCode?_eq_some_iff {value : Int} {opcode : Opcode} :
    ofCode? value = some opcode ↔ value = opcode.code := by
  constructor
  · intro found
    unfold ofCode? at found
    split at found <;> cases found <;> rfl
  · rintro rfl
    exact ofCode?_code opcode

end Opcode

end Intcode
