import Intcode.CommandLine.Arguments
import Intcode.CommandLine.Execution

/-!
# Exits

How the program ends: with a status for whoever started it, and a report if something went wrong.
-/

namespace Intcode

inductive Exit where
  | success
  | failure (cause : Failure)
  | usage (cause : UsageError)
  deriving DecidableEq, Repr

namespace Exit

/-- The exit status: zero for success, one for a failure, two for arguments that name no command. -/
def status : Exit → Nat
  | success => 0
  | failure _ => 1
  | usage _ => 2

def report : Exit → String
  | success => ""
  | failure cause => cause.report
  | usage cause => "error: " ++ cause.message ++ "\n"

end Exit

namespace Command

/-- A way to read a command from the arguments of the program.  The environment may name the
directory of the cache. -/
abbrev Reading : Type :=
  Option String → List String → Except UsageError Command

variable {m : Type → Type} [Monad m]

/-- Execute the command that is read from the arguments. -/
def performWith (reading : Reading) (host : Host m) (limit rounds : Nat)
    (environment : Option String) (arguments : List String) : m (Option Exit) := do
  match reading environment arguments with
  | .error error => return some (.usage error)
  | .ok command =>
      match ← command.execute host limit rounds with
      | none => return none
      | some (.ok ()) => return some .success
      | some (.error failure) => return some (.failure failure)

def perform (host : Host m) (limit rounds : Nat) (environment : Option String)
    (arguments : List String) : m (Option Exit) :=
  performWith ofArguments host limit rounds environment arguments

end Command

end Intcode
