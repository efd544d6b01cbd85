/-!
# Phases of a machine

A machine is ready after a program is loaded, running while it executes, blocked when it waits for
input, halted when its program has ended, and faulted when an instruction could not be executed.
-/

namespace Intcode

inductive Phase where
  | ready
  | running
  | blocked
  | halted
  | faulted
  deriving DecidableEq, Repr

namespace Phase

def name : Phase → String
  | ready => "ready"
  | running => "running"
  | blocked => "blocked"
  | halted => "halted"
  | faulted => "faulted"

def ofName? (name : String) : Option Phase :=
  [ready, running, blocked, halted, faulted].find? (·.name == name)

/-- A machine is stopped when only a new program can make it go on. -/
def isStopped : Phase → Bool
  | halted | faulted => true
  | ready | running | blocked => false

end Phase

end Intcode
