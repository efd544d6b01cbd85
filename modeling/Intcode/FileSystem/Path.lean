/-!
# Paths

A path is a text of names between slashes.  It is kept as it was written, because that is how it is
shown.  Walking it ignores empty names, `.` stays, `..` goes up, and a slash at the end asks for a
directory, just as `.` does.
-/

namespace Intcode

structure Path where
  text : String
  deriving DecidableEq, Repr

namespace Path

/-- The path of a name below a path.  A slash goes between the two unless one is there or the path
is empty. -/
def join (path : Path) (name : String) : Path :=
  match path.text.toList.getLast? with
  | none | some '/' => ⟨path.text ++ name⟩
  | some _ => ⟨path.text ++ "/" ++ name⟩

def isAbsolute (path : Path) : Bool :=
  path.text.toList.head? == some '/'

inductive Component where
  /-- Stay in the directory. -/
  | here
  /-- Go to the directory that holds this one. -/
  | up
  /-- Go to an entry of the directory. -/
  | entry (name : String)
  deriving DecidableEq, Repr

namespace Component

def ofName (name : List Char) : Component :=
  if name = ['.'] then here
  else if name = ['.', '.'] then up
  else entry (String.ofList name)

def ofNames : List (List Char) → List Component
  | [] => []
  | [[]] => [here]
  | [] :: rest => ofNames rest
  | name :: rest => ofName name :: ofNames rest

def text : Component → String
  | here => "."
  | up => ".."
  | entry name => name

end Component

def components (path : Path) : List Component :=
  Component.ofNames (path.text.toList.splitOn '/')

def ofComponents (isAbsolute : Bool) (components : List Component) : Path :=
  ⟨(if isAbsolute then "/" else "") ++ "/".intercalate (components.map Component.text)⟩

/-- The path and the directories that hold it, from the inside out, short of the one where the walk
starts. -/
def ancestors (path : Path) : List Path :=
  let steps := path.components.filter (· != .here)
  (List.range steps.length).reverse.map fun index =>
    ofComponents path.isAbsolute (steps.take (index + 1))

end Path

end Intcode
