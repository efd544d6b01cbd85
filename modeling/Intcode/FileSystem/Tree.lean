import Intcode.FileSystem.Basic

/-!
# Trees of files

A tree of directories and files of bytes, as a value.  A location is the list of names from the root
down.  Relative paths start at the tree's working directory.
-/

namespace Intcode

/-- The names from the root down. -/
abbrev Location := List String

inductive Node where
  | directory
  | file (bytes : ByteArray)

instance : DecidableEq Node
  | .directory, .directory => isTrue rfl
  | .directory, .file _ => isFalse nofun
  | .file _, .directory => isFalse nofun
  | .file bytes, .file others =>
      match ByteArray.instDecidableEq bytes others with
      | isTrue same => isTrue (congrArg Node.file same)
      | isFalse different => isFalse fun same => different (Node.file.inj same)

/-- The nodes below the root, by location, and the location where relative paths start. -/
structure Tree where
  nodes : List (Location × Node)
  workingDirectory : Location

namespace Tree

/-- What stands at a location.  The root is a directory. -/
def node? (tree : Tree) (location : Location) : Option Node :=
  if location = [] then some .directory else tree.nodes.lookup location

def put (tree : Tree) (location : Location) (node : Node) : Tree :=
  { tree with nodes := (location, node) :: tree.nodes.filter (·.1 != location) }

/-- Putting a node changes what stands at its location and nowhere else.  The root stays. -/
theorem node?_put (tree : Tree) {location : Location} (inside : location ≠ []) (node : Node)
    (other : Location) :
    (tree.put location node).node? other =
      if other = location then some node else tree.node? other := by
  have others : ∀ nodes : List (Location × Node), other ≠ location →
      (nodes.filter (·.1 != location)).lookup other = nodes.lookup other := by
    intro nodes apart
    have distinct : (other == location) = false := beq_eq_false_iff_ne.2 apart
    induction nodes with
    | nil => rfl
    | cons entry rest ih =>
        obtain ⟨place, node⟩ := entry
        by_cases removed : place = location
        · subst removed
          simpa [List.lookup_cons, distinct] using ih
        · simp [removed, List.lookup_cons, ih]
  by_cases same : other = location
  · subst same
    simp [node?, put, inside]
  · by_cases top : other = []
    · simp [node?, top, Ne.symm inside]
    · have distinct : (other == location) = false := beq_eq_false_iff_ne.2 same
      simp [node?, put, top, same, List.lookup_cons, distinct, others tree.nodes same]

/-- The location one step on.  Above the root there is only the root. -/
def follow (location : Location) : Path.Component → Location
  | .here => location
  | .up => location.dropLast
  | .entry name => location ++ [name]

/-- The location at the end of a walk.  Each step leads out of a directory; what stands at the end,
if anything, the walk does not look at. -/
def walk (tree : Tree) (location : Location) : List Path.Component → Except HostError Location
  | [] => .ok location
  | step :: rest =>
      match tree.node? location with
      | none => .error .notFound
      | some (.file _) => .error .notADirectory
      | some .directory => tree.walk (follow location step) rest

/-- The location of a path.  The empty path has none. -/
def locate (tree : Tree) (path : Path) : Except HostError Location :=
  if path.text = "" then
    .error .notFound
  else
    tree.walk (if path.isAbsolute then [] else tree.workingDirectory) path.components

def read (tree : Tree) (path : Path) : Except HostError ByteArray := do
  match tree.node? (← tree.locate path) with
  | none => .error .notFound
  | some .directory => .error .isADirectory
  | some (.file bytes) => .ok bytes

/-- Make a file with some bytes, or replace those of a file. -/
def write (tree : Tree) (path : Path) (bytes : ByteArray) : Except HostError Tree := do
  let location ← tree.locate path
  match tree.node? location with
  | some .directory => .error .isADirectory
  | _ => .ok (tree.put location (.file bytes))

def makeDirectory (tree : Tree) (path : Path) : Except HostError Tree := do
  let location ← tree.locate path
  match tree.node? location with
  | none => .ok (tree.put location .directory)
  | some _ => .error .alreadyExists

def isDirectory (tree : Tree) (path : Path) : Bool :=
  match tree.locate path with
  | .ok location => tree.node? location == some .directory
  | .error _ => false

def files (tree : Tree) : List (Location × ByteArray) :=
  tree.nodes.filterMap fun
    | (location, .file bytes) => some (location, bytes)
    | (_, .directory) => none

/-- Replace the tree in the state, unless the change failed. -/
def update (change : Tree → Except HostError Tree) : StateM Tree (Except HostError Unit) :=
  modifyGet fun tree =>
    match change tree with
    | .ok changed => (.ok (), changed)
    | .error error => (.error error, tree)

def fileSystem : FileSystem (StateM Tree) where
  read path := return (← get).read path
  write path bytes := update (·.write path bytes)
  makeDirectory path := update (·.makeDirectory path)
  isDirectory path := return (← get).isDirectory path

end Tree

end Intcode
