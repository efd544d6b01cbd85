import Intcode.Mode
import Intcode.Opcode

/-!
# Instructions

An instruction is an operation together with the modes of its parameters.  The parameters
themselves stay in memory, so an instruction is fixed by its word alone.
-/

namespace Intcode

inductive Combiner where
  | add
  | multiply
  | lessThan
  | equals
  deriving DecidableEq, Repr

namespace Combiner

/-- The combined value; a comparison gives one when it holds and zero when it does not. -/
def apply : Combiner → Int → Int → Int
  | add, left, right => left + right
  | multiply, left, right => left * right
  | lessThan, left, right => if left < right then 1 else 0
  | equals, left, right => if left = right then 1 else 0

def opcode : Combiner → Opcode
  | add => .add
  | multiply => .multiply
  | lessThan => .lessThan
  | equals => .equals

end Combiner

inductive Condition where
  | nonzero
  | zero
  deriving DecidableEq, Repr

namespace Condition

def holds : Condition → Int → Bool
  | nonzero, value => value != 0
  | zero, value => value == 0

def opcode : Condition → Opcode
  | nonzero => .jumpIfTrue
  | zero => .jumpIfFalse

end Condition

/-- An operation with the modes of its parameters, in the order of the parameters. -/
inductive Instruction where
  /-- Combine two operands and store the result. -/
  | combine (combiner : Combiner) (left right : Mode) (target : TargetMode)
  /-- Take a value from the input and store it. -/
  | input (target : TargetMode)
  /-- Put the operand on the output. -/
  | output (value : Mode)
  /-- Go on at the second operand if the first meets the condition. -/
  | jump (condition : Condition) (value destination : Mode)
  /-- Add the operand to the base. -/
  | adjustBase (offset : Mode)
  /-- End the program. -/
  | halt
  deriving DecidableEq, Repr

namespace Instruction

def opcode : Instruction → Opcode
  | combine combiner _ _ _ => combiner.opcode
  | input _ => .input
  | output _ => .output
  | jump condition _ _ => condition.opcode
  | adjustBase _ => .adjustBase
  | halt => .halt

def modes : Instruction → List Mode
  | combine _ left right target => [left, right, target.toMode]
  | input target => [target.toMode]
  | output value => [value]
  | jump _ value destination => [value, destination]
  | adjustBase offset => [offset]
  | halt => []

def width (instruction : Instruction) : Nat :=
  instruction.opcode.width

/-- An instruction has one mode for each parameter of its opcode. -/
theorem length_modes (instruction : Instruction) :
    instruction.modes.length = instruction.opcode.arity := by
  cases instruction with
  | combine combiner _ _ _ => cases combiner <;> rfl
  | jump condition _ _ => cases condition <;> rfl
  | input _ => rfl
  | output _ => rfl
  | adjustBase _ => rfl
  | halt => rfl

end Instruction

end Intcode
