import Intcode.Proofs.FileSystem.Walking
import Intcode.Proofs.Host.Actions

/-!
# How trees change

Making directories lets a tree grow: new directories stand where nothing stood, and all else stays.
Writing a file changes what stands at one location.  Neither takes a directory away, so a walk that
ended somewhere still ends there.
-/

namespace Intcode

namespace Tree

/-- Every directory of a tree is a directory of the other, and relative paths start at the same
location. -/
structure KeepsDirectories (before after : Tree) : Prop where
  workingDirectory : after.workingDirectory = before.workingDirectory
  directory {location : Location} (stood : before.node? location = some .directory) :
    after.node? location = some .directory

structure Grows (before after : Tree) : Prop where
  workingDirectory : after.workingDirectory = before.workingDirectory
  kept {location : Location} {node : Node} (stood : before.node? location = some node) :
    after.node? location = some node
  fresh {location : Location} {node : Node} (vacant : before.node? location = none)
    (stands : after.node? location = some node) : node = .directory

/-! ## Walks in changed trees -/

theorem KeepsDirectories.walk
    {before after : Tree} (keeps : KeepsDirectories before after) {location place : Location}
    {steps : List Path.Component} (walked : before.walk location steps = .ok place) :
    after.walk location steps = .ok place := by
  induction steps generalizing location with
  | nil =>
      cases walked
      rfl
  | cons step rest ih =>
      have stood := node?_of_walk_cons walked
      rw [walk_of_directory stood] at walked
      rw [walk_of_directory (keeps.directory stood)]
      exact ih walked

theorem KeepsDirectories.locate
    {before after : Tree} (keeps : KeepsDirectories before after) {path : Path}
    {place : Location} (located : before.locate path = .ok place) :
    after.locate path = .ok place := by
  unfold Tree.locate at located ⊢
  split at located
  · cases located
  · next nonempty =>
    rw [if_neg nonempty, keeps.workingDirectory]
    exact keeps.walk located

/-! ## Growing -/

namespace Grows

theorem refl (tree : Tree) : Grows tree tree where
  workingDirectory := rfl
  kept stood := stood
  fresh vacant stands := by
    rw [vacant] at stands
    cases stands

theorem trans {first second third : Tree} (grows : Grows first second)
    (further : Grows second third) : Grows first third where
  workingDirectory := further.workingDirectory.trans grows.workingDirectory
  kept stood := further.kept (grows.kept stood)
  fresh {location node} vacant stands := by
    cases middle : second.node? location with
    | none => exact further.fresh middle stands
    | some other =>
        rw [further.kept middle] at stands
        cases stands
        exact grows.fresh vacant middle

instance : Std.Refl Grows :=
  ⟨refl⟩

instance : Trans Grows Grows Grows :=
  ⟨trans⟩

theorem keepsDirectories {before after : Tree} (grows : Grows before after) :
    KeepsDirectories before after :=
  ⟨grows.workingDirectory, grows.kept⟩

theorem file?_eq {before after : Tree} (grows : Grows before after) (location : Location) :
    after.file? location = before.file? location := by
  unfold file?
  cases stood : before.node? location with
  | some node => rw [grows.kept stood]
  | none =>
      cases stands : after.node? location with
      | none => rfl
      | some node => rw [grows.fresh stood stands]

theorem finds {before after : Tree} (grows : Grows before after) {path : Path} {node : Node}
    (found : before.Finds path node) : after.Finds path node := by
  obtain ⟨location, located, stood⟩ := found
  exact ⟨location, grows.keepsDirectories.locate located, grows.kept stood⟩

end Grows

/-! ## Updates -/

theorem run_update_of_ok
    {change : Tree → Except HostError Tree} {tree after : Tree} (changed : change tree = .ok after) :
    (update change).run tree = (.ok (), after) := by
  rw [update, StateT.run_modifyGet, changed]
  rfl

theorem run_update_of_error
    {change : Tree → Except HostError Tree} {tree : Tree} {error : HostError}
    (failed : change tree = .error error) : (update change).run tree = (.error error, tree) := by
  rw [update, StateT.run_modifyGet, failed]
  rfl

/-! ## Making directories -/

theorem ne_nil_of_node?_ne {tree : Tree} {location : Location}
    (other : tree.node? location ≠ some .directory) : location ≠ [] := by
  rintro rfl
  exact other rfl

theorem grows_put_directory {tree : Tree} {location : Location}
    (vacant : tree.node? location = none) : Grows tree (tree.put location .directory) := by
  have inside : location ≠ [] := ne_nil_of_node?_ne (by rw [vacant]; exact nofun)
  refine ⟨rfl, ?_, ?_⟩
  · intro other node stood
    rw [node?_put tree inside, if_neg ?_]
    · exact stood
    · rintro rfl
      rw [vacant] at stood
      cases stood
  · intro other node absent stands
    rw [node?_put tree inside] at stands
    split at stands
    · exact (Option.some.inj stands).symm
    · rw [absent] at stands
      cases stands

theorem makeDirectory_of_locate_ok
    {tree : Tree} {path : Path} {location : Location} (located : tree.locate path = .ok location) :
    tree.makeDirectory path =
      match tree.node? location with
      | none => .ok (tree.put location .directory)
      | some _ => .error .alreadyExists := by
  rw [makeDirectory, located]
  rfl

theorem grows_makeDirectory
    {tree after : Tree} {path : Path} (made : tree.makeDirectory path = .ok after) :
    Grows tree after := by
  cases located : tree.locate path with
  | error error =>
      rw [makeDirectory, located] at made
      cases made
  | ok location =>
      rw [makeDirectory_of_locate_ok located] at made
      split at made
      · next vacant =>
        cases made
        exact grows_put_directory vacant
      · cases made

theorem moves_makeDirectory (path : Path) : Moves Grows (fileSystem.makeDirectory path) := by
  intro tree
  change Grows tree ((update (·.makeDirectory path)).run tree).2
  cases made : tree.makeDirectory path with
  | ok after =>
      rw [run_update_of_ok made]
      exact grows_makeDirectory made
  | error error =>
      rw [run_update_of_error made]
      exact .refl tree

theorem moves_isDirectory (path : Path) : Moves Grows (fileSystem.isDirectory path) :=
  fun tree => .refl tree

theorem moves_ensureDirectory (path : Path) : Moves Grows (fileSystem.ensureDirectory path) := by
  refine (moves_makeDirectory path).bind fun made => ?_
  split
  · exact .pure _
  · refine (moves_isDirectory path).bind fun stands => ?_
    split
    · exact .pure _
    · exact .pure _

theorem moves_makeAll (paths : List Path) : Moves Grows (fileSystem.makeAll paths) := by
  induction paths with
  | nil => exact .pure _
  | cons path outer ih =>
      refine (moves_ensureDirectory path).bind fun made => ?_
      split
      · refine ih.bind fun held => ?_
        split
        · exact moves_ensureDirectory path
        · exact .pure _
      · exact .pure _

/-- Whether it succeeds or not, making directories lets a tree grow. -/
theorem moves_makeDirectories (path : Path) : Moves Grows (fileSystem.makeDirectories path) :=
  moves_makeAll path.ancestors

/-! ## Writing files -/

structure Writes (before : Tree) (path : Path) (bytes : ByteArray) (after : Tree) : Prop where
  keeps : KeepsDirectories before after
  file : after.Finds path (.file bytes)
  others {location : Location} (elsewhere : after.locate path ≠ .ok location) :
    after.node? location = before.node? location

theorem writes_put
    {tree : Tree} {path : Path} {location : Location} (located : tree.locate path = .ok location)
    (other : tree.node? location ≠ some .directory) (bytes : ByteArray) :
    Writes tree path bytes (tree.put location (.file bytes)) := by
  have put := tree.node?_put (ne_nil_of_node?_ne other) (.file bytes)
  have keeps : KeepsDirectories tree (tree.put location (.file bytes)) := by
    refine ⟨rfl, ?_⟩
    intro place stood
    rw [put, if_neg ?_]
    · exact stood
    · rintro rfl
      exact other stood
  have located' := keeps.locate located
  refine ⟨keeps, ⟨location, located', ?_⟩, ?_⟩
  · rw [put, if_pos rfl]
  · intro place elsewhere
    rw [put, if_neg ?_]
    rintro rfl
    exact elsewhere located'

theorem write_of_locate_ok
    {tree : Tree} {path : Path} {location : Location} (located : tree.locate path = .ok location)
    (bytes : ByteArray) :
    tree.write path bytes =
      match tree.node? location with
      | some .directory => .error .isADirectory
      | _ => .ok (tree.put location (.file bytes)) := by
  rw [Tree.write, located]
  rfl

theorem writes_of_write
    {tree after : Tree} {path : Path} {bytes : ByteArray}
    (wrote : tree.write path bytes = .ok after) : Writes tree path bytes after := by
  cases located : tree.locate path with
  | error error =>
      rw [Tree.write, located] at wrote
      cases wrote
  | ok location =>
      rw [write_of_locate_ok located] at wrote
      split at wrote
      · cases wrote
      · next other =>
        cases wrote
        exact writes_put located other bytes

end Tree

end Intcode
