import Intcode.Channel
import Intcode.Memory
import Intcode.Program

/-!
# Machines

A machine is a memory, an instruction pointer, a base for relative addresses, a channel and a
phase.  This module holds the machine and what its owner does to it between runs: loading a program,
queueing input, taking output, and listening.
-/

namespace Intcode

structure Machine where
  memory : Memory
  ip : Address
  base : Int
  channel : Channel
  phase : Phase

namespace Machine

def empty : Machine :=
  ⟨.empty, .zero, 0, .empty, .ready⟩

/-- The machine with a program in its memory and everything else but the listeners at its start. -/
def start (machine : Machine) (program : Program) : Machine :=
  { memory := .ofList program.cells
    ip := .zero
    base := 0
    channel := machine.channel.clear
    phase := .ready }

/-- Start the program of a text.  A malformed text leaves the machine as it is. -/
def load (machine : Machine) (text : String) : Except Fault Unit × Machine :=
  match Program.parse text with
  | .ok program => (.ok (), machine.start program)
  | .error fault => (.error fault, machine)

def ofText (text : String) : Except Fault Machine :=
  (Program.parse text).map empty.start

/-- Put values at the end of the input.  A faulted machine takes none. -/
def enqueueAll (machine : Machine) (values : List Int) : Except Fault Unit × Machine :=
  if machine.phase = .faulted then
    (.error (.invalidTransition machine.phase .enqueueInput), machine)
  else
    (.ok (), { machine with channel := machine.channel.enqueueAll values })

def enqueue (machine : Machine) (value : Int) : Except Fault Unit × Machine :=
  machine.enqueueAll [value]

def drain (machine : Machine) : List Int × Machine :=
  let (values, channel) := machine.channel.drain
  (values, { machine with channel })

def listen (machine : Machine) (listener : String) : Machine :=
  { machine with channel := machine.channel.subscribe listener }

def pending (machine : Machine) : Nat :=
  machine.channel.pending

/-- A faulted machine refuses input and stays as it is. -/
theorem enqueueAll_of_faulted
    {machine : Machine} (faulted : machine.phase = .faulted) (values : List Int) :
    machine.enqueueAll values =
      (.error (.invalidTransition .faulted .enqueueInput), machine) := by
  simp [enqueueAll, faulted]

/-- Any other machine takes the values. -/
theorem enqueueAll_of_not_faulted
    {machine : Machine} (sound : machine.phase ≠ .faulted) (values : List Int) :
    machine.enqueueAll values =
      (.ok (), { machine with channel := machine.channel.enqueueAll values }) := by
  simp [enqueueAll, sound]

end Machine

end Intcode
