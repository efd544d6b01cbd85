import Mathlib.Data.Nat.Digits.Defs
import Intcode.Proofs.Machine.Progress

/-!
# The ideal machine

The machine as its rules have it, without any storage: the memory is a total map from the natural
numbers, the instruction pointer is a natural number, and instruction words are read digit by digit.
A number names a cell when it lies in the address space; the parameters are examined from left to
right, and the parameter that is written through last.
-/

namespace Intcode

structure IdealMachine where
  memory : Nat → Int
  ip : Nat
  base : Int
  input : List Int
  output : List Int
  listeners : List String
  heard : List (String × Int)
  phase : Phase

namespace IdealMachine

inductive Trouble where
  /-- A number that should name a cell names none. -/
  | address (value : Int)
  /-- A parameter, counted from one, has a mode digit it cannot have. -/
  | mode (ip parameter digit : Nat)
  /-- The two low digits of the instruction word are no opcode. -/
  | opcode (ip : Nat) (code : Int)
  deriving DecidableEq, Repr

def start (cells input : List Int) (listeners : List String) (heard : List (String × Int)) :
    IdealMachine where
  memory := fun position => cells[position]?.getD 0
  ip := 0
  base := 0
  input := input
  output := []
  listeners := listeners
  heard := heard
  phase := .running

def word (machine : IdealMachine) : Int :=
  machine.memory machine.ip

/-- The decimal digit of the instruction word at a place, the units being at place zero. -/
def digit (machine : IdealMachine) (place : Nat) : Nat :=
  (Nat.digits 10 machine.word.toNat).getD place 0

def code (machine : IdealMachine) : Nat :=
  10 * machine.digit 1 + machine.digit 0

def modeDigit (machine : IdealMachine) (index : Nat) : Nat :=
  machine.digit (index + 2)

/-- A parameter of the instruction.  Beyond the address space parameters are zero. -/
def parameter (machine : IdealMachine) (index : Nat) : Int :=
  if machine.ip + (index + 1) < 2 ^ 64 then machine.memory (machine.ip + (index + 1)) else 0

def fail (machine : IdealMachine) (trouble : Trouble) : Progress Trouble IdealMachine :=
  .stopped (.error trouble) { machine with phase := .faulted }

def attempt {α : Type} (machine : IdealMachine) (value : Except Trouble α)
    (further : α → Progress Trouble IdealMachine) : Progress Trouble IdealMachine :=
  match value with
  | .error trouble => machine.fail trouble
  | .ok value => further value

def locate (value : Int) : Except Trouble Nat :=
  if 0 ≤ value ∧ value < 2 ^ 64 then .ok value.toNat else .error (.address value)

/-- The mode digits of a parameter that is read: by position, immediate, and relative. -/
def readable : List Nat :=
  [0, 1, 2]

def writable : List Nat :=
  [0, 2]

def examine (machine : IdealMachine) (index : Nat) (allowed : List Nat) : Except Trouble Nat :=
  if machine.modeDigit index ∈ allowed then
    .ok (machine.modeDigit index)
  else
    .error (.mode machine.ip (index + 1) (machine.modeDigit index))

/-- What a parameter stands for, before it is taken as the name of a cell. -/
def reference (machine : IdealMachine) (index digit : Nat) : Int :=
  if digit = 2 then machine.base + machine.parameter index else machine.parameter index

def operand (machine : IdealMachine) (index digit : Nat) : Except Trouble Int :=
  if digit = 1 then
    .ok (machine.parameter index)
  else
    (locate (machine.reference index digit)).map machine.memory

def target (machine : IdealMachine) (index digit : Nat) : Except Trouble Nat :=
  locate (machine.reference index digit)

def store (machine : IdealMachine) (cell : Nat) (value : Int) : IdealMachine :=
  { machine with
    memory := fun position => if position = cell then value else machine.memory position }

def emit (machine : IdealMachine) (value : Int) : IdealMachine :=
  { machine with
    output := machine.output ++ [value]
    heard := machine.heard ++ machine.listeners.map fun listener => (listener, value) }

/-- Go on behind an instruction.  The instruction pointer stays in the address space. -/
def advance (machine : IdealMachine) (width : Nat) : Progress Trouble IdealMachine :=
  if machine.ip + width < 2 ^ 64 then
    .running { machine with ip := machine.ip + width }
  else
    machine.fail (.address (machine.ip + width))

def combine (machine : IdealMachine) (operation : Int → Int → Int) :
    Progress Trouble IdealMachine :=
  machine.attempt (machine.examine 0 readable) fun leftDigit =>
  machine.attempt (machine.examine 1 readable) fun rightDigit =>
  machine.attempt (machine.examine 2 writable) fun targetDigit =>
  machine.attempt (machine.operand 0 leftDigit) fun left =>
  machine.attempt (machine.operand 1 rightDigit) fun right =>
  machine.attempt (machine.target 2 targetDigit) fun cell =>
  (machine.store cell (operation left right)).advance 4

/-- Wait at the end of the input; else take a value first and look for its cell afterwards. -/
def takeInput (machine : IdealMachine) : Progress Trouble IdealMachine :=
  machine.attempt (machine.examine 0 writable) fun targetDigit =>
  match machine.input with
  | [] => .stopped (.ok .blocked) { machine with phase := .blocked }
  | value :: rest =>
      let taken := { machine with input := rest }
      taken.attempt (taken.target 0 targetDigit) fun cell => (taken.store cell value).advance 2

def putOutput (machine : IdealMachine) : Progress Trouble IdealMachine :=
  machine.attempt (machine.examine 0 readable) fun digit =>
  machine.attempt (machine.operand 0 digit) fun value =>
  (machine.emit value).advance 2

/-- Go on at the second operand if the first meets a condition; else the second is not looked at. -/
def jump (machine : IdealMachine) (condition : Int → Bool) : Progress Trouble IdealMachine :=
  machine.attempt (machine.examine 0 readable) fun valueDigit =>
  machine.attempt (machine.examine 1 readable) fun goalDigit =>
  machine.attempt (machine.operand 0 valueDigit) fun value =>
  if condition value then
    machine.attempt (machine.operand 1 goalDigit) fun goal =>
    machine.attempt (locate goal) fun cell =>
    .running { machine with ip := cell }
  else
    machine.advance 3

def adjustBase (machine : IdealMachine) : Progress Trouble IdealMachine :=
  machine.attempt (machine.examine 0 readable) fun digit =>
  machine.attempt (machine.operand 0 digit) fun offset =>
  { machine with base := machine.base + offset }.advance 2

def turn (machine : IdealMachine) : Progress Trouble IdealMachine :=
  if machine.word < 0 then
    machine.fail (.opcode machine.ip (machine.word.tmod 100))
  else
    match machine.code with
    | 1 => machine.combine fun left right => left + right
    | 2 => machine.combine fun left right => left * right
    | 3 => machine.takeInput
    | 4 => machine.putOutput
    | 5 => machine.jump fun value => value ≠ 0
    | 6 => machine.jump fun value => value = 0
    | 7 => machine.combine fun left right => if left < right then 1 else 0
    | 8 => machine.combine fun left right => if left = right then 1 else 0
    | 9 => machine.adjustBase
    | 99 => .stopped (.ok .halted) { machine with phase := .halted }
    | code => machine.fail (.opcode machine.ip code)

def progress (machine : IdealMachine) (count : Nat) : Progress Trouble IdealMachine :=
  Progress.iterate turn count machine

end IdealMachine

end Intcode
