import Intcode.Fault
import Intcode.Instruction.Basic

/-!
# Instruction words

An instruction word is an integer whose two low decimal digits are the opcode and whose further
digits, from the low end on, are the modes of the parameters.  Digits beyond the last parameter
have no meaning.
-/

namespace Intcode

namespace Instruction

/-- The digits of a list of modes, the first mode in the lowest place. -/
def modeDigits (modes : List Mode) : Nat :=
  modes.foldr (fun mode higher => mode.digit + 10 * higher) 0

/-- The smallest word of an instruction. -/
def encode (instruction : Instruction) : Nat :=
  instruction.opcode.code + 100 * modeDigits instruction.modes

end Instruction

/-- An instruction word together with the address it was found at, which its faults name. -/
structure Word where
  value : Int
  ip : Address

namespace Word

/-- The two low digits, with the sign of the word. -/
def code (word : Word) : Int :=
  word.value.tmod 100

def modeDigit (word : Word) (parameter : Nat) : Nat :=
  word.value.natAbs / 100 / Nat.pow 10 parameter % 10

/-- The fault of a parameter whose mode digit it cannot have.  Faults count parameters from one. -/
def modeFault (word : Word) (parameter : Nat) : Fault :=
  .invalidAddressingMode word.ip (parameter + 1) (word.modeDigit parameter)

def mode (word : Word) (parameter : Nat) : Except Fault Mode :=
  match Mode.ofDigit? (word.modeDigit parameter) with
  | some mode => .ok mode
  | none => .error (word.modeFault parameter)

def targetMode (word : Word) (parameter : Nat) : Except Fault TargetMode :=
  match TargetMode.ofDigit? (word.modeDigit parameter) with
  | some mode => .ok mode
  | none => .error (word.modeFault parameter)

def combine (word : Word) (combiner : Combiner) : Except Fault Instruction := do
  let left ← word.mode 0
  let right ← word.mode 1
  let target ← word.targetMode 2
  return .combine combiner left right target

def jump (word : Word) (condition : Condition) : Except Fault Instruction := do
  let value ← word.mode 0
  let destination ← word.mode 1
  return .jump condition value destination

/-- The instruction of a word.  The opcode is examined first, then the modes in the order of the
parameters.  A target is the last parameter, so examining it in its turn finds the same first fault
as examining it after all digits. -/
def decode (word : Word) : Except Fault Instruction :=
  match Opcode.ofCode? word.code with
  | none => .error (.unknownOpcode word.ip word.code)
  | some .add => word.combine .add
  | some .multiply => word.combine .multiply
  | some .lessThan => word.combine .lessThan
  | some .equals => word.combine .equals
  | some .jumpIfTrue => word.jump .nonzero
  | some .jumpIfFalse => word.jump .zero
  | some .input => .input <$> word.targetMode 0
  | some .output => .output <$> word.mode 0
  | some .adjustBase => .adjustBase <$> word.mode 0
  | some .halt => .ok .halt

/-- A word that faults by its opcode has none of the ten. -/
theorem decode_of_unknown {word : Word} (unknown : Opcode.ofCode? word.code = none) :
    word.decode = .error (.unknownOpcode word.ip word.code) := by
  simp [decode, unknown]

/-- An opcode has at most two digits. -/
theorem code_lt (opcode : Opcode) : opcode.code < 100 := by
  cases opcode <;> decide

end Word

end Intcode
