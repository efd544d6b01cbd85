import Intcode.FileSystem.Tree

/-!
# Walking through a tree

The walk along a path finds what stands at its end, or is obstructed by a file that stands where it
needs a directory, or misses.  Reading a file tells the three apart.
-/

namespace Intcode

namespace Tree

def file? (tree : Tree) (location : Location) : Option ByteArray :=
  match tree.node? location with
  | some (.file bytes) => some bytes
  | some .directory | none => none

def origin (tree : Tree) (path : Path) : Location :=
  if path.isAbsolute then [] else tree.workingDirectory

/-- A path finds a node when the walk along it ends there. -/
def Finds (tree : Tree) (path : Path) (node : Node) : Prop :=
  ∃ location, tree.locate path = .ok location ∧ tree.node? location = some node

/-- A path is obstructed when some steps of the walk along it lead to a file, and more steps
follow. -/
def Obstructed (tree : Tree) (path : Path) : Prop :=
  ∃ before step after location bytes, path.components = before ++ step :: after ∧
    tree.walk (tree.origin path) before = .ok location ∧
      tree.node? location = some (.file bytes)

/-! ## Walks -/

theorem locate_of_nonempty {path : Path} (nonempty : path.text ≠ "") (tree : Tree) :
    tree.locate path = tree.walk (tree.origin path) path.components :=
  if_neg nonempty

theorem walk_of_directory
    {tree : Tree} {location : Location} (stands : tree.node? location = some .directory)
    (step : Path.Component) (rest : List Path.Component) :
    tree.walk location (step :: rest) = tree.walk (follow location step) rest := by
  rw [walk, stands]

/-- A walk that goes on from a location led out of a directory there. -/
theorem node?_of_walk_cons
    {tree : Tree} {location place : Location} {step : Path.Component} {rest : List Path.Component}
    (walked : tree.walk location (step :: rest) = .ok place) :
    tree.node? location = some .directory := by
  unfold walk at walked
  split at walked
  · cases walked
  · cases walked
  · assumption

/-- A walk goes on where its first part ended. -/
theorem walk_append
    {tree : Tree} {location middle : Location} {first : List Path.Component}
    (walked : tree.walk location first = .ok middle) (second : List Path.Component) :
    tree.walk location (first ++ second) = tree.walk middle second := by
  induction first generalizing location with
  | nil =>
      cases walked
      rfl
  | cons step rest ih =>
      have stands := node?_of_walk_cons walked
      rw [walk_of_directory stands] at walked
      rw [List.cons_append, walk_of_directory stands, ih walked]

theorem exists_walk_of_append
    {tree : Tree} {location place : Location} {first second : List Path.Component}
    (walked : tree.walk location (first ++ second) = .ok place) :
    ∃ middle, tree.walk location first = .ok middle ∧ tree.walk middle second = .ok place := by
  induction first generalizing location with
  | nil => exact ⟨location, rfl, walked⟩
  | cons step rest ih =>
      have stands := node?_of_walk_cons walked
      rw [List.cons_append, walk_of_directory stands] at walked
      rw [walk_of_directory stands]
      exact ih walked

/-- Steps to two entries lead to the two names. -/
theorem eq_of_walk_entries
    {tree : Tree} {location place : Location} {first second : String}
    (walked : tree.walk location [.entry first, .entry second] = .ok place) :
    place = location ++ [first, second] := by
  have stands := node?_of_walk_cons walked
  rw [walk_of_directory stands] at walked
  have stands' := node?_of_walk_cons walked
  rw [walk_of_directory stands'] at walked
  cases walked
  exact List.append_assoc _ _ _

/-! ## Walks that fail -/

/-- A walk that fails misses a node, or is obstructed by a file. -/
theorem of_walk_error
    {tree : Tree} {location : Location} {steps : List Path.Component} {error : HostError}
    (failed : tree.walk location steps = .error error) :
    error = .notFound ∨ error = .notADirectory ∧
      ∃ before step after place bytes, steps = before ++ step :: after ∧
        tree.walk location before = .ok place ∧ tree.node? place = some (.file bytes) := by
  induction steps generalizing location with
  | nil => cases failed
  | cons step rest ih =>
      unfold walk at failed
      split at failed
      · cases failed
        exact .inl rfl
      · next bytes stands =>
        cases failed
        exact .inr ⟨rfl, [], step, rest, location, bytes, rfl, rfl, stands⟩
      · next stands =>
        rcases ih failed with missed | ⟨same, before, next, after, place, bytes, split, walked, file⟩
        · exact .inl missed
        · refine .inr ⟨same, step :: before, next, after, place, bytes, ?_, ?_, file⟩
          · rw [split, List.cons_append]
          · rw [walk_of_directory stands, walked]

theorem locate_of_obstructed
    {tree : Tree} {path : Path} (nonempty : path.text ≠ "") (obstructed : tree.Obstructed path) :
    tree.locate path = .error .notADirectory := by
  obtain ⟨before, step, after, location, bytes, split, walked, stands⟩ := obstructed
  rw [locate_of_nonempty nonempty, split, walk_append walked, walk, stands]

/-! ## Reading -/

theorem read_of_locate_ok
    {tree : Tree} {path : Path} {location : Location} (located : tree.locate path = .ok location) :
    tree.read path =
      match tree.node? location with
      | none => .error .notFound
      | some .directory => .error .isADirectory
      | some (.file bytes) => .ok bytes := by
  rw [read, located]
  rfl

theorem read_of_locate_error
    {tree : Tree} {path : Path} {error : HostError} (unlocated : tree.locate path = .error error) :
    tree.read path = .error error := by
  rw [read, unlocated]
  rfl

theorem read_of_obstructed
    {tree : Tree} {path : Path} (nonempty : path.text ≠ "") (obstructed : tree.Obstructed path) :
    tree.read path = .error .notADirectory :=
  read_of_locate_error (locate_of_obstructed nonempty obstructed)

theorem read_of_directory
    {tree : Tree} {path : Path} (finds : tree.Finds path .directory) :
    tree.read path = .error .isADirectory := by
  obtain ⟨location, located, stands⟩ := finds
  rw [read_of_locate_ok located, stands]

/-- Where nothing stands and nothing obstructs, the file is missing. -/
theorem read_of_missing
    {tree : Tree} {path : Path} (nonempty : path.text ≠ "")
    (nothing : ∀ node, ¬ tree.Finds path node) (free : ¬ tree.Obstructed path) :
    tree.read path = .error .notFound := by
  cases located : tree.locate path with
  | ok location =>
      rw [read_of_locate_ok located]
      cases stands : tree.node? location with
      | none => rfl
      | some node => exact absurd ⟨location, located, stands⟩ (nothing node)
  | error error =>
      rw [read_of_locate_error located]
      rw [locate_of_nonempty nonempty] at located
      rcases of_walk_error located with rfl | ⟨-, obstructed⟩
      · rfl
      · exact absurd obstructed free

theorem read_eq_ok_iff {tree : Tree} {path : Path} {bytes : ByteArray} :
    tree.read path = .ok bytes ↔ tree.Finds path (.file bytes) := by
  constructor
  · intro read
    cases located : tree.locate path with
    | error error =>
        rw [read_of_locate_error located] at read
        cases read
    | ok location =>
        rw [read_of_locate_ok located] at read
        split at read
        · cases read
        · cases read
        · next stands =>
          cases read
          exact ⟨location, located, stands⟩
  · rintro ⟨location, located, stands⟩
    rw [read_of_locate_ok located, stands]

end Tree

end Intcode
