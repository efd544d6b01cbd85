import Intcode.CommandLine.Command
import Intcode.CommandLine.Failure

/-!
# Executing commands

What each command does with the files and the console of its host.  The two batch commands compute
first and print afterwards, so nothing is printed when a program is malformed or faults; one that
still waits for input fails after its output is printed.
-/

namespace Intcode

structure Host (m : Type → Type) where
  files : FileSystem m
  console : Console m

/-- What a batch command prints, and whether the program then still waits for input. -/
structure Printout where
  texts : List String
  isWaiting : Bool
  deriving DecidableEq, Repr

namespace Printout

def ofValues (values : List Int) (phase : Phase) : Printout :=
  ⟨values.map Transcript.valueLine, phase == .blocked⟩

def ofTranscript (transcript : Transcript) : Printout :=
  ⟨transcript.text :: transcript.answers.map Transcript.valueLine,
    transcript.phase == .blocked⟩

end Printout

namespace Machine

/-- Run a machine once with all of its input, and take the output as a transcript. -/
def batch (limit : Nat) (machine : Machine) (input : List Int) :
    Option (Except Failure Transcript) :=
  match machine.enqueueAll input with
  | (.error fault, _) => some (.error (.fault fault))
  | (.ok (), fed) => (fed.runText limit).map fun answer => answer.1.mapError .fault

end Machine

namespace Command

/-- Feed values to a program.  The program is read before the values. -/
def runValues (limit : Nat) (program values : String) : Option (Except Failure Printout) :=
  match Machine.ofText program, Program.parse values with
  | .error fault, _ => some (.error (.fault fault))
  | .ok _, .error fault => some (.error (.inputValues fault))
  | .ok machine, .ok input =>
      (machine.batch limit input.cells).map fun answer =>
        answer.map fun transcript => Printout.ofValues transcript.codes transcript.phase

def runLines (limit : Nat) (program : String) (lines : List String) :
    Option (Except Failure Printout) :=
  match Machine.ofText program with
  | .error fault => some (.error (.fault fault))
  | .ok machine =>
      (machine.batch limit (lines.flatMap lineCodes)).map fun answer =>
        answer.map Printout.ofTranscript

variable {m : Type → Type} [Monad m]

def print (console : Console m) (printout : Printout) : m (Except Failure Unit) := do
  match ← console.writeAll printout.texts with
  | .error error => return .error (.host error)
  | .ok () => return if printout.isWaiting then .error .waiting else .ok ()

def printAnswer (console : Console m) :
    Option (Except Failure Printout) → m (Option (Except Failure Unit))
  | none => return none
  | some (.error failure) => return some (.error failure)
  | some (.ok printout) => return some (← print console printout)

def load (files : FileSystem m) : Source → m (Except Failure String)
  | .file path => do
      return (← files.readText path).mapError (.reading path)
  | .cached cache puzzle => do
      match ← cache.read files puzzle with
      | .ok (some text) => return .ok text
      | .ok none => return .error (.notCached (cache.path puzzle))
      | .error error => return .error (.reading (cache.path puzzle) error)

def talk (console : Console m) (prompt : String) (limit rounds : Nat) (program : String) :
    m (Option (Except Failure Unit)) := do
  match Machine.ofText program with
  | .error fault => return some (.error (.fault fault))
  | .ok machine =>
      match ← machine.converse console prompt limit rounds with
      | none => return none
      | some (.error interruption, _) => return some (.error (.ofInterruption interruption))
      | some (.ok _, _) => return some (.ok ())

/-- Copy a program file into a cache.  A file that holds no program is not copied. -/
def storeFile (files : FileSystem m) (file : Path) (cache : Cache) (puzzle : PuzzleDay) :
    m (Except Failure Unit) := do
  match ← files.readText file with
  | .error error => return .error (.reading file error)
  | .ok text =>
      match Program.parse text with
      | .error fault => return .error (.notAProgram file fault)
      | .ok _ =>
          return (← cache.write files puzzle text).mapError (.writing (cache.path puzzle))

def say (console : Console m) (text : String) : m (Option (Except Failure Unit)) := do
  return some ((← console.write text).mapError .host)

def withProgram (files : FileSystem m) (source : Source)
    (action : String → m (Option (Except Failure Unit))) : m (Option (Except Failure Unit)) := do
  match ← load files source with
  | .error failure => return some (.error failure)
  | .ok program => action program

/-- Execute a command.  The answer is `none` when a program uses up the limit on the cycles of a run,
or a conversation the limit on its rounds. -/
def execute (host : Host m) (limit rounds : Nat) : Command → m (Option (Except Failure Unit))
  | .help => say host.console helpText
  | .version => say host.console versionLine
  | .run source values =>
      withProgram host.files source fun program =>
        printAnswer host.console (runValues limit program values)
  | .ascii source lines =>
      withProgram host.files source fun program =>
        printAnswer host.console (runLines limit program lines)
  | .interactive source prompt =>
      withProgram host.files source (talk host.console prompt limit rounds)
  | .store file cache puzzle => return some (← storeFile host.files file cache puzzle)

end Command

end Intcode
