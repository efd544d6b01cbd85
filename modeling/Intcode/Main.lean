import Intcode.CommandLine.Exit
import Intcode.Console.Terminal

/-!
# The program

The command line program: its host is the machine that it runs on.
-/

namespace Intcode

namespace Main

/-- The number of an error, which the system may hand on negated. -/
def errorNumber (code : UInt32) : UInt32 :=
  if code < 0x80000000 then code else 0 - code

def hostError : IO.Error → HostError
  | .noFileOrDirectory .. => .notFound
  | .alreadyExists .. => .alreadyExists
  | .inappropriateType _ code _ =>
      if errorNumber code = 20 then .notADirectory else .isADirectory
  | .resourceVanished .. => .brokenPipe
  | error => .other (toString error)

def attempt {α : Type} (action : IO α) : IO (Except HostError α) := do
  try
    return .ok (← action)
  catch error =>
    return .error (hostError error)

/-- The bytes of standard input up to and including the next line feed. -/
partial def readBytes (input : IO.FS.Stream) (line : Array UInt8) : IO (List UInt8) := do
  let byte ← input.read 1
  match byte.toList with
  | [] => return line.toList
  | byte :: _ =>
      if byte = Terminal.lineFeed then
        return (line.push byte).toList
      else
        readBytes input (line.push byte)

def readLine : IO (Except HostError (Option String)) := do
  match ← attempt (readBytes (← IO.getStdin) #[]) with
  | .error error => return .error error
  | .ok [] => return .ok none
  | .ok line => return (Terminal.lineText line).map some

def write (text : String) : IO (Except HostError Unit) :=
  attempt do
    let output ← IO.getStdout
    output.putStr text
    output.flush

def isDirectory (path : Path) : IO Bool := do
  match ← attempt do (← IO.FS.realPath path.text).isDir with
  | .ok answer => return answer
  | .error _ => return false

def host : Host IO where
  files :=
    { read := fun path => attempt (IO.FS.readBinFile path.text)
      write := fun path bytes => attempt (IO.FS.writeBinFile path.text bytes)
      makeDirectory := fun path => attempt (IO.FS.createDir path.text)
      isDirectory := isDirectory }
  console := { readLine := readLine, write := write }

/-- A limit that no run and no conversation reaches. -/
def limit : Nat :=
  1 <<< 62

end Main

end Intcode

def main (arguments : List String) : IO UInt32 := do
  let environment ← IO.getEnv "INPUT_DIR"
  let limit := Intcode.Main.limit
  match ← Intcode.Command.perform Intcode.Main.host limit limit environment arguments with
  | some exit =>
      IO.eprint exit.report
      return UInt32.ofNat exit.status
  | none => return 1
