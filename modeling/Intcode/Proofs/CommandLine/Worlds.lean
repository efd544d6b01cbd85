import Intcode.CommandLine.Exit
import Intcode.CommandLine.World
import Intcode.Proofs.Cache.LastWrite

/-!
# Commands in worlds

What the files of a world do is what its tree does, and the console leaves the tree alone.  So a
program is loaded from the tree, only storing changes the tree, and a command that takes a program
depends on its source only through the text that the source has in the tree.
-/

namespace Intcode

/-! ## Files of a world -/

theorem Tree.finds_of_readText {tree : Tree} {path : Path} {text : String}
    (read : tree.read path >>= readText = .ok text) : tree.Finds path (.file text.toUTF8) := by
  cases found : tree.read path with
  | error error =>
      rw [found] at read
      cases read
  | ok bytes =>
      rw [Tree.bind_readText found] at read
      rw [← readText_eq_ok_iff.1 read]
      exact Tree.read_eq_ok_iff.1 found

namespace Cache

section Carried

variable {m n : Type → Type} [Monad m] [Monad n] {carry : (α : Type) → m α → n α}

theorem read_through
    (carries : Carries carry) (files : FileSystem m) (cache : Cache) (puzzle : PuzzleDay) :
    cache.read (files.through carry) puzzle = carry _ (cache.read files puzzle) := by
  rw [read, read, carries.bind, FileSystem.readText_through carries]
  congr 1
  funext text
  split <;> exact (carries.pure _).symm

theorem write_through
    (carries : Carries carry) (files : FileSystem m) (cache : Cache) (puzzle : PuzzleDay)
    (text : String) :
    cache.write (files.through carry) puzzle text = carry _ (cache.write files puzzle text) := by
  rw [write, write, carries.bind, FileSystem.makeDirectories_through carries]
  congr 1
  funext made
  cases made with
  | ok done => rfl
  | error error => exact (carries.pure _).symm

end Carried

end Cache

namespace World

theorem run_onTree {α : Type} (action : StateM Tree α) (world : World) :
    (onTree action).run world =
      ((action.run world.tree).1, { world with tree := (action.run world.tree).2 }) :=
  rfl

/-- An action on the tree is one on the world, and so is whatever is built from such actions. -/
theorem carries_onTree : Carries fun α => onTree (α := α) where
  pure _ := rfl
  bind _ _ := rfl

theorem files_host : host.files = Tree.fileSystem.through fun α => onTree (α := α) :=
  rfl

theorem run_readText (path : Path) (world : World) :
    (host.files.readText path).run world = (world.tree.read path >>= readText, world) :=
  rfl

theorem run_cache_read (cache : Cache) (puzzle : PuzzleDay) (world : World) :
    (cache.read host.files puzzle).run world =
      (Cache.textOf (world.tree.read (cache.path puzzle)), world) := by
  rw [files_host, Cache.read_through carries_onTree, run_onTree, Cache.run_read]

theorem run_cache_write
    {cache : Cache} {puzzle : PuzzleDay} {text : String} {world : World}
    {result : Except HostError Unit} {after : Tree}
    (wrote : (cache.write Tree.fileSystem puzzle text).run world.tree = (result, after)) :
    (cache.write host.files puzzle text).run world = (result, { world with tree := after }) := by
  rw [files_host, Cache.write_through carries_onTree, run_onTree, wrote]

/-! ## The console of a world -/

def prints (world : World) (text : String) : World :=
  { world with terminal := world.terminal.write text }

@[simp] theorem prints_empty (world : World) : world.prints "" = world := by
  rw [prints, Terminal.write, String.append_empty]

theorem prints_prints (world : World) (first second : String) :
    (world.prints first).prints second = world.prints (first ++ second) := by
  simp only [prints, Terminal.write, String.append_assoc]

theorem run_writeAll (texts : List String) (world : World) :
    (host.console.writeAll texts).run world = (.ok (), world.prints (String.join texts)) := by
  induction texts generalizing world with
  | nil =>
      rw [String.join_nil, prints_empty]
      rfl
  | cons text texts ih =>
      have wrote : (host.console.write text).run world = (.ok (), world.prints text) := rfl
      rw [Console.writeAll, run_bind_of_run wrote, String.join_cons, ← prints_prints]
      exact ih (world.prints text)

/-! ## Actions that leave the files alone -/

def SameFiles (before after : World) : Prop :=
  after.tree = before.tree

instance : Std.Refl SameFiles :=
  ⟨fun _ => rfl⟩

instance : Trans SameFiles SameFiles SameFiles :=
  ⟨fun same further => Eq.trans further same⟩

theorem moves_onTerminal {α : Type} (action : StateM Terminal α) :
    Moves SameFiles (onTerminal action) :=
  fun _ => rfl

theorem moves_writeAll (texts : List String) : Moves SameFiles (host.console.writeAll texts) := by
  induction texts with
  | nil => exact .pure _
  | cons text texts ih =>
      refine (moves_onTerminal _).bind fun wrote => ?_
      cases wrote with
      | error error => exact .pure _
      | ok done => exact ih

/-- A conversation only uses the console, however many rounds it takes. -/
theorem moves_converse (prompt : String) (limit rounds : Nat) (machine : Machine) :
    Moves SameFiles (machine.converse host.console prompt limit rounds) := by
  induction rounds generalizing machine with
  | zero => exact .pure _
  | succ rounds ih =>
      unfold Machine.converse
      split
      · exact .pure _
      · exact .pure _
      · refine (moves_writeAll _).bind fun wrote => ?_
        split
        · exact .pure _
        · split
          · exact .pure _
          · refine (moves_onTerminal _).bind fun read => ?_
            split
            · exact .pure _
            · exact .pure _
            · split
              · exact .pure _
              · exact ih _

end World

/-! ## Loading programs -/

def Cache.programText (path : Path) : Except HostError (Option String) → Except Failure String
  | .ok (some text) => .ok text
  | .ok none => .error (.notCached path)
  | .error error => .error (.reading path error)

def Source.text (tree : Tree) : Source → Except Failure String
  | .file path => (tree.read path >>= readText).mapError (.reading path)
  | .cached cache puzzle =>
      Cache.programText (cache.path puzzle) (Cache.textOf (tree.read (cache.path puzzle)))

theorem Source.text_file {tree : Tree} {path : Path} {text : String}
    (finds : tree.Finds path (.file text.toUTF8)) : (Source.file path).text tree = .ok text := by
  rw [Source.text, Tree.bind_readText (Tree.read_eq_ok_iff.2 finds), readText_toUTF8]
  rfl

theorem Source.text_cached {tree : Tree} {cache : Cache} {puzzle : PuzzleDay} {text : String}
    (finds : tree.Finds (cache.path puzzle) (.file text.toUTF8)) :
    (Source.cached cache puzzle).text tree = .ok text := by
  rw [Source.text, (cache.answers_textOf puzzle tree).text finds, Cache.programText]

namespace Command

theorem run_load (source : Source) (world : World) :
    (load World.host.files source).run world = (source.text world.tree, world) := by
  cases source with
  | file path =>
      rw [load, run_bind_of_run (World.run_readText path world), Source.text]
      rfl
  | cached cache puzzle =>
      rw [load, run_bind_of_run (World.run_cache_read cache puzzle world), Source.text]
      generalize Cache.textOf (world.tree.read (cache.path puzzle)) = answer
      rcases answer with error | _ | text
      · rfl
      · rfl
      · rfl

section Programs

variable {source : Source} {world : World}
  (action : String → StateM World (Option (Except Failure Unit)))

theorem run_withProgram_of_error {failure : Failure}
    (failed : source.text world.tree = .error failure) :
    (withProgram World.host.files source action).run world =
      (some (.error failure), world) := by
  have loaded := run_load source world
  rw [failed] at loaded
  rw [withProgram, run_bind_of_run loaded]
  rfl

theorem run_withProgram_of_ok {program : String}
    (loads : source.text world.tree = .ok program) :
    (withProgram World.host.files source action).run world = (action program).run world := by
  have loaded := run_load source world
  rw [loads] at loaded
  rw [withProgram, run_bind_of_run loaded]

end Programs

/-- Sources with the same text in a tree can stand for each other. -/
theorem run_withProgram_congr
    {source other : Source} {world : World} {text : String}
    (loads : source.text world.tree = .ok text) (loads' : other.text world.tree = .ok text)
    (action : String → StateM World (Option (Except Failure Unit))) :
    (withProgram World.host.files source action).run world =
      (withProgram World.host.files other action).run world := by
  rw [run_withProgram_of_ok action loads, run_withProgram_of_ok action loads']

/-! ## Executing commands -/

def Stores (puzzle : PuzzleDay) : Command → Prop
  | .store _ _ other => other = puzzle
  | _ => False

theorem moves_print (printout : Printout) :
    Moves World.SameFiles (print World.host.console printout) := by
  refine (World.moves_writeAll _).bind fun wrote => ?_
  cases wrote with
  | error error => exact .pure _
  | ok done => exact .pure _

theorem moves_printAnswer (answer : Option (Except Failure Printout)) :
    Moves World.SameFiles (printAnswer World.host.console answer) := by
  rcases answer with _ | failure | printout
  · exact .pure _
  · exact .pure _
  · exact (moves_print printout).bind fun _ => .pure _

theorem moves_talk (prompt program : String) (limit rounds : Nat) :
    Moves World.SameFiles (talk World.host.console prompt limit rounds program) := by
  unfold talk
  split
  · exact .pure _
  · refine (World.moves_converse _ _ _ _).bind fun result => ?_
    split <;> exact .pure _

theorem moves_say (text : String) : Moves World.SameFiles (say World.host.console text) :=
  (World.moves_onTerminal _).bind fun _ => .pure _

theorem moves_withProgram
    {action : String → StateM World (Option (Except Failure Unit))}
    (moves : ∀ program, Moves World.SameFiles (action program)) (source : Source) :
    Moves World.SameFiles (withProgram World.host.files source action) := by
  intro world
  cases loaded : source.text world.tree with
  | error failure =>
      rw [run_withProgram_of_error action loaded]
      rfl
  | ok program =>
      rw [run_withProgram_of_ok action loaded]
      exact moves program world

/-- Only storing changes files. -/
theorem moves_execute
    {command : Command} (stores : ∀ puzzle, ¬ command.Stores puzzle) (limit rounds : Nat) :
    Moves World.SameFiles (command.execute World.host limit rounds) := by
  cases command with
  | help => exact moves_say helpText
  | version => exact moves_say versionLine
  | run source values => exact moves_withProgram (fun program => moves_printAnswer _) source
  | ascii source lines => exact moves_withProgram (fun program => moves_printAnswer _) source
  | interactive source prompt =>
      exact moves_withProgram (fun program => moves_talk prompt program limit rounds) source
  | store file cache puzzle => exact absurd rfl (stores puzzle)

section Stored

variable {file : Path} {world : World}

theorem run_storeFile_of_unreadable {error : HostError}
    (unreadable : world.tree.read file >>= readText = .error error) (cache : Cache)
    (puzzle : PuzzleDay) :
    (storeFile World.host.files file cache puzzle).run world =
      (.error (.reading file error), world) := by
  rw [storeFile, run_bind_of_run (World.run_readText file world), unreadable]
  rfl

theorem run_storeFile_of_malformed {text : String} {fault : Fault}
    (finds : world.tree.Finds file (.file text.toUTF8))
    (malformed : Program.parse text = .error fault) (cache : Cache) (puzzle : PuzzleDay) :
    (storeFile World.host.files file cache puzzle).run world =
      (.error (.notAProgram file fault), world) := by
  have read : world.tree.read file >>= readText = .ok text := by
    rw [Tree.bind_readText (Tree.read_eq_ok_iff.2 finds), readText_toUTF8]
  rw [storeFile, run_bind_of_run (World.run_readText file world), read]
  simp only [malformed]
  rfl

theorem run_storeFile_of_parsed
    {text : String} {program : Program} {cache : Cache} {puzzle : PuzzleDay}
    {result : Except HostError Unit} {after : Tree}
    (finds : world.tree.Finds file (.file text.toUTF8))
    (parsed : Program.parse text = .ok program)
    (wrote : (cache.write Tree.fileSystem puzzle text).run world.tree = (result, after)) :
    (storeFile World.host.files file cache puzzle).run world =
      (result.mapError (.writing (cache.path puzzle)), { world with tree := after }) := by
  have read : world.tree.read file >>= readText = .ok text := by
    rw [Tree.bind_readText (Tree.read_eq_ok_iff.2 finds), readText_toUTF8]
  rw [storeFile, run_bind_of_run (World.run_readText file world), read]
  simp only [parsed]
  rw [run_bind_of_run (World.run_cache_write wrote)]
  rfl

end Stored

/-! ## Performing commands -/

def exitOf : Except Failure Unit → Exit
  | .ok () => .success
  | .error failure => .failure failure

section Performing

variable {σ : Type} {reading : Reading} {environment : Option String} {arguments : List String}

theorem run_performWith
    {command : Command} (names : reading environment arguments = .ok command)
    (host : Host (StateM σ)) (limit rounds : Nat) (state : σ) :
    (performWith reading host limit rounds environment arguments).run state =
      (((command.execute host limit rounds).run state).1.map exitOf,
        ((command.execute host limit rounds).run state).2) := by
  rcases executed : (command.execute host limit rounds).run state with ⟨answer, next⟩
  rw [performWith, names]
  simp only
  rw [run_bind_of_run executed]
  rcases answer with _ | failure | done <;> rfl

theorem run_performWith_of_error
    {error : UsageError} (misused : reading environment arguments = .error error)
    (host : Host (StateM σ)) (limit rounds : Nat) (state : σ) :
    (performWith reading host limit rounds environment arguments).run state =
      (some (.usage error), state) := by
  rw [performWith, misused]
  rfl

end Performing

end Command

end Intcode
