import Intcode.Host.Error

/-!
# Consoles

A console gives lines and takes texts, and either may fail.  It is a record of two operations in
any monad, so that one conversation runs on a terminal and on a script alike.
-/

namespace Intcode

/-- The two operations of a console.  No line means the end of the input. -/
structure Console (m : Type → Type) where
  readLine : m (Except HostError (Option String))
  write : String → m (Except HostError Unit)

namespace Console

variable {m : Type → Type} [Monad m]

/-- Write texts in order, up to the first that fails. -/
def writeAll (console : Console m) : List String → m (Except HostError Unit)
  | [] => pure (.ok ())
  | text :: rest => do
      match ← console.write text with
      | .error error => return .error error
      | .ok () => console.writeAll rest

end Console

end Intcode
