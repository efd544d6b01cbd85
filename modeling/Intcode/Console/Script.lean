import Intcode.Console.Basic

/-!
# Scripted consoles

A scripted console answers requests for lines from a list, and notes each text that it is given.  It
can be told to fail: in place of a line, or at a given write.
-/

namespace Intcode

/-- The answers still to give, the texts taken so far, and how many texts will be taken in all. -/
structure Script where
  answers : List (Except HostError (Option String))
  shown : List String
  capacity : Option Nat

namespace Script

/-- The script that gives the lines in order, then the end of the input, and takes every text. -/
def ofLines (lines : List String) : Script :=
  ⟨lines.map fun line => .ok (some line), [], none⟩

def next (script : Script) : Except HostError (Option String) × Script :=
  match script.answers with
  | [] => (.ok none, script)
  | answer :: rest => (answer, { script with answers := rest })

/-- Take a text, unless the script has taken all that it will take. -/
def take (script : Script) (text : String) : Except HostError Unit × Script :=
  if script.capacity = some script.shown.length then
    (.error .brokenPipe, script)
  else
    (.ok (), { script with shown := script.shown ++ [text] })

def console : Console (StateM Script) where
  readLine := modifyGet next
  write text := modifyGet (·.take text)

end Script

end Intcode
