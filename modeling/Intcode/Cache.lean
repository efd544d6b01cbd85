import Intcode.Decimal
import Intcode.FileSystem.Basic

/-!
# The cache of puzzle inputs

A cache keeps one text for each day of each year, in a directory for the year and a file for the
day.  A day without a file is a miss and no error; anything else that keeps the file from being read
is an error.
-/

namespace Intcode

structure PuzzleDay where
  year : UInt16
  day : UInt8
  deriving DecidableEq, Repr

namespace PuzzleDay

/-- The name of a day's file: at least two digits, and an extension. -/
def fileName (puzzle : PuzzleDay) : String :=
  (if puzzle.day < 10 then "0" else "") ++ Decimal.text puzzle.day.toNat ++ ".txt"

def directoryName (puzzle : PuzzleDay) : String :=
  Decimal.text puzzle.year.toNat

end PuzzleDay

structure Cache where
  root : Path
  deriving DecidableEq, Repr

namespace Cache

def defaultRoot : String :=
  "inputs"

def directory (cache : Cache) (puzzle : PuzzleDay) : Path :=
  cache.root.join puzzle.directoryName

def path (cache : Cache) (puzzle : PuzzleDay) : Path :=
  (cache.directory puzzle).join puzzle.fileName

variable {m : Type → Type} [Monad m]

def read (files : FileSystem m) (cache : Cache) (puzzle : PuzzleDay) :
    m (Except HostError (Option String)) := do
  match ← files.readText (cache.path puzzle) with
  | .ok text => return .ok (some text)
  | .error .notFound => return .ok none
  | .error error => return .error error

def write (files : FileSystem m) (cache : Cache) (puzzle : PuzzleDay) (text : String) :
    m (Except HostError Unit) := do
  match ← files.makeDirectories (cache.directory puzzle) with
  | .ok () => files.write (cache.path puzzle) text.toUTF8
  | .error error => return .error error

end Cache

end Intcode
