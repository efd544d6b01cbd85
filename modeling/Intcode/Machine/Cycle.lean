import Intcode.Instruction.Word
import Intcode.Machine.Basic

/-!
# One machine cycle

A cycle decodes the word at the instruction pointer and executes the instruction.  Operands are
examined from left to right and the write target last; what the instruction does, it does after all
of them were found good.  The one exception is an input instruction, which takes its value first: a
fault in its target does not give the value back.
-/

namespace Intcode

inductive Step where
  /-- With the instruction behind this one. -/
  | advance
  /-- With the instruction at an address. -/
  | jump (destination : Address)
  /-- Not before there is input. -/
  | block
  /-- Not at all. -/
  | halt
  deriving DecidableEq, Repr

namespace Machine

/-- A parameter of the instruction at the instruction pointer.  Beyond the last address parameters
are zero. -/
def parameter (machine : Machine) (index : Nat) : Int :=
  match machine.ip.offset? (index + 1) with
  | some address => machine.memory.read address
  | none => 0

def operand (machine : Machine) (index : Nat) : Mode → Except Fault Int
  | .position => machine.memory.readAt (machine.parameter index)
  | .immediate => .ok (machine.parameter index)
  | .relative => machine.memory.readAt (machine.base + machine.parameter index)

def target (machine : Machine) (index : Nat) : TargetMode → Except Fault Address
  | .position => Address.locate (machine.parameter index)
  | .relative => Address.locate (machine.base + machine.parameter index)

def combination (machine : Machine) (combiner : Combiner) (left right : Mode)
    (target : TargetMode) : Except Fault (Int × Address) := do
  let leftValue ← machine.operand 0 left
  let rightValue ← machine.operand 1 right
  let address ← machine.target 2 target
  return (combiner.apply leftValue rightValue, address)

/-- The step of a jump.  The destination is examined only if the jump is taken. -/
def jumpStep (machine : Machine) (condition : Condition) (value destination : Mode) :
    Except Fault Step := do
  if condition.holds (← machine.operand 0 value) then
    let address ← Address.locate (← machine.operand 1 destination)
    return .jump address
  else
    return .advance

def store (machine : Machine) (address : Address) (value : Int) : Machine :=
  { machine with memory := machine.memory.write address value }

/-- Execute an instruction: the step it ends in or its fault, and the machine it leaves. -/
def execute (machine : Machine) : Instruction → Except Fault Step × Machine
  | .combine combiner left right target =>
      match machine.combination combiner left right target with
      | .error fault => (.error fault, machine)
      | .ok (value, address) => (.ok .advance, machine.store address value)
  | .input target =>
      match machine.channel.dequeue with
      | (none, _) => (.ok .block, machine)
      | (some value, channel) =>
          let machine := { machine with channel }
          match machine.target 0 target with
          | .error fault => (.error fault, machine)
          | .ok address => (.ok .advance, machine.store address value)
  | .output value =>
      match machine.operand 0 value with
      | .error fault => (.error fault, machine)
      | .ok value => (.ok .advance, { machine with channel := machine.channel.emit value })
  | .jump condition value destination => (machine.jumpStep condition value destination, machine)
  | .adjustBase offset =>
      match machine.operand 0 offset with
      | .error fault => (.error fault, machine)
      | .ok offset => (.ok .advance, { machine with base := machine.base + offset })
  | .halt => (.ok .halt, machine)

/-- Carry out a step after an instruction that takes some cells.  No instruction lies beyond the
last address. -/
def follow (machine : Machine) (width : Nat) : Step → Except Fault Unit × Machine
  | .advance =>
      match machine.ip.offset? width with
      | some next => (.ok (), { machine with ip := next })
      | none => (.error (.invalidAddress (machine.ip.toNat + width)), machine)
  | .jump destination => (.ok (), { machine with ip := destination })
  | .block => (.ok (), { machine with phase := .blocked })
  | .halt => (.ok (), { machine with phase := .halted })

def fetch (machine : Machine) : Except Fault Instruction :=
  Word.decode ⟨machine.memory.read machine.ip, machine.ip⟩

def cycle (machine : Machine) : Except Fault Unit × Machine :=
  match machine.fetch with
  | .error fault => (.error fault, machine)
  | .ok instruction =>
      match machine.execute instruction with
      | (.error fault, after) => (.error fault, after)
      | (.ok step, after) => after.follow instruction.width step

/-- A word that does not decode leaves the machine as it is. -/
theorem cycle_of_fetch_error
    {machine : Machine} {fault : Fault} (undecodable : machine.fetch = .error fault) :
    machine.cycle = (.error fault, machine) := by
  simp [cycle, undecodable]

end Machine

end Intcode
