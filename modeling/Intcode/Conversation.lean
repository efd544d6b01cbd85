import Intcode.Console.Basic
import Intcode.Transcript

/-!
# Conversations

A conversation lets a machine that talks in text use a console: it runs the machine, shows what the
run put out, and sends the next line, until the program halts or the console has no more lines.
-/

namespace Intcode

inductive Interruption where
  /-- The machine faulted. -/
  | machine (fault : Fault)
  /-- The console failed. -/
  | console (error : HostError)
  deriving DecidableEq, Repr

namespace Interruption

def message : Interruption → String
  | machine fault => fault.message
  | console error => error.message

end Interruption

namespace Machine

variable {m : Type → Type} [Monad m]

/-- Talk until the program halts or the console has no more lines, and answer with the machine's
last phase.  The answer is `none` when a run uses up its limit of cycles, or when the rounds are used
up. -/
def converse (console : Console m) (prompt : String) (limit : Nat) :
    Nat → Machine → m (Option (Except Interruption Phase × Machine))
  | 0, _ => pure none
  | rounds + 1, machine =>
      match machine.runText limit with
      | none => pure none
      | some (.error fault, after) => pure (some (.error (.machine fault), after))
      | some (.ok transcript, after) => do
          match ← console.writeAll (transcript.display prompt) with
          | .error error => return some (.error (.console error), after)
          | .ok () =>
              if transcript.phase = .halted then
                return some (.ok .halted, after)
              else
                match ← console.readLine with
                | .error error => return some (.error (.console error), after)
                | .ok none => return some (.ok transcript.phase, after)
                | .ok (some line) =>
                    match after.sendLine line with
                    | (.error fault, after) => return some (.error (.machine fault), after)
                    | (.ok (), after) => converse console prompt limit rounds after

end Machine

end Intcode
