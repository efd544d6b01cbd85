import Intcode.Conversation
import Intcode.FileSystem.Path

/-!
# Failures of commands

The ways in which a command can fail, and the report of each: a line that says what failed and, if
that has a cause of its own, a paragraph with the cause.
-/

namespace Intcode

inductive Failure where
  /-- The program or its machine is at fault. -/
  | fault (cause : Fault)
  /-- The host failed under the program's output or its conversation. -/
  | host (cause : HostError)
  /-- A file cannot be read. -/
  | reading (path : Path) (cause : HostError)
  /-- A file cannot be written. -/
  | writing (path : Path) (cause : HostError)
  /-- The values to feed are malformed. -/
  | inputValues (cause : Fault)
  /-- A file to store holds no program. -/
  | notAProgram (path : Path) (cause : Fault)
  /-- The cache has nothing for the day. -/
  | notCached (path : Path)
  /-- The program waits for input and there is no more. -/
  | waiting
  deriving DecidableEq, Repr

namespace Failure

def ofInterruption : Interruption → Failure
  | .machine cause => fault cause
  | .console cause => host cause

def message : Failure → String
  | fault cause => cause.message
  | host cause => cause.message
  | reading path _ => "reading " ++ path.text
  | writing path _ => "writing " ++ path.text
  | inputValues _ => "parsing input values"
  | notAProgram path _ => path.text ++ " is not a program"
  | notCached path => "no cached input at " ++ path.text
  | waiting => "program is waiting for more input"

/-- Why it failed, where the message does not say so. -/
def cause? : Failure → Option String
  | reading _ cause | writing _ cause => some cause.message
  | inputValues cause | notAProgram _ cause => some cause.message
  | fault _ | host _ | notCached _ | waiting => none

def report (failure : Failure) : String :=
  "Error: " ++ failure.message ++ "\n"
    ++ match failure.cause? with
      | some cause => "\nCaused by:\n    " ++ cause ++ "\n"
      | none => ""

end Failure

end Intcode
