import Intcode.FileSystem.Path
import Intcode.Host.Bytes

/-!
# File systems

A file system is a record of four operations in any monad.  What the library needs beyond them, it
builds from them, and so it works on a disk and on a model of one alike.
-/

namespace Intcode

structure FileSystem (m : Type → Type) where
  /-- The bytes of a file. -/
  read : Path → m (Except HostError ByteArray)
  /-- Make a file with some bytes, or replace those of a file. -/
  write : Path → ByteArray → m (Except HostError Unit)
  /-- Make a directory in a directory that exists. -/
  makeDirectory : Path → m (Except HostError Unit)
  /-- Whether there is a directory. -/
  isDirectory : Path → m Bool

namespace FileSystem

variable {m : Type → Type} [Monad m]

/-- Make a directory, content if there is one already. -/
def ensureDirectory (files : FileSystem m) (path : Path) : m (Except HostError Unit) := do
  match ← files.makeDirectory path with
  | .ok () => return .ok ()
  | .error error => if ← files.isDirectory path then return .ok () else return .error error

/-- Make the first directory of a list whose others hold it, from the inside out.  Those that are
missing are made first. -/
def makeAll (files : FileSystem m) : List Path → m (Except HostError Unit)
  | [] => pure (.ok ())
  | path :: outer => do
      match ← files.ensureDirectory path with
      | .error .notFound =>
          match ← files.makeAll outer with
          | .ok () => files.ensureDirectory path
          | .error error => return .error error
      | result => return result

/-- Make a directory and the directories that hold it, as far as they are missing. -/
def makeDirectories (files : FileSystem m) (path : Path) : m (Except HostError Unit) :=
  files.makeAll path.ancestors

def readText (files : FileSystem m) (path : Path) : m (Except HostError String) := do
  return (← files.read path) >>= Intcode.readText

end FileSystem

end Intcode
