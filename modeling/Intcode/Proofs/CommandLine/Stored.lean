import Intcode.Proofs.CommandLine.Worlds

/-!
# Stored programs

Storing copies the text of a program file into a cache, byte for byte, and only if it is the text of
a program.  From then on the cache stands for the file: a command that takes its program from the
one does the same as a command that takes it from the other, whatever else was done meanwhile, as
long as nothing else is stored for that day and the file is as it was.
-/

namespace Intcode

namespace Command

/-- The command with its program taken from another source.  Commands that take no program stay. -/
def withSource (source : Source) : Command → Command
  | .run _ values => .run source values
  | .ascii _ lines => .ascii source lines
  | .interactive _ prompt => .interactive source prompt
  | command => command

theorem run_execute_withSource
    {source other : Source} {world : World} {text : String}
    (loads : source.text world.tree = .ok text) (loads' : other.text world.tree = .ok text)
    (command : Command) (limit rounds : Nat) :
    ((command.withSource source).execute World.host limit rounds).run world =
      ((command.withSource other).execute World.host limit rounds).run world := by
  cases command with
  | run named values => exact run_withProgram_congr loads loads' _
  | ascii named lines => exact run_withProgram_congr loads loads' _
  | interactive named prompt => exact run_withProgram_congr loads loads' _
  | help => rfl
  | version => rfl
  | store file cache puzzle => rfl

/-! ## Meanwhile -/

/--
The files as they are after any number of commands, on whatever terminals, none of which stores
anything for a day.
-/
inductive Meanwhile (reading : Reading) (puzzle : PuzzleDay) (first : Tree) : Tree → Prop where
  | nothing : Meanwhile reading puzzle first first
  | performed {world : World} {environment : Option String} {arguments : List String}
      (earlier : Meanwhile reading puzzle first world.tree)
      (other : ∀ command, reading environment arguments = .ok command →
        ¬ command.Stores puzzle)
      (limit rounds : Nat) :
      Meanwhile reading puzzle first
        ((performWith reading World.host limit rounds environment arguments).run world).2.tree

section Kept

variable {reading : Reading} {puzzle : PuzzleDay} {cache : Cache} {bytes : ByteArray}
  {world : World}

/-- What is stored for another day leaves the file of a day as it is. -/
theorem finds_storeFile
    {other : PuzzleDay} (apart : puzzle ≠ other)
    (finds : world.tree.Finds (cache.path puzzle) (.file bytes)) (file : Path) (cache' : Cache) :
    ((storeFile World.host.files file cache' other).run world).2.tree.Finds
      (cache.path puzzle) (.file bytes) := by
  cases read : world.tree.read file >>= readText with
  | error error =>
      rw [run_storeFile_of_unreadable read]
      exact finds
  | ok text =>
      have found := Tree.finds_of_readText read
      cases parsed : Program.parse text with
      | error fault =>
          rw [run_storeFile_of_malformed found parsed]
          exact finds
      | ok program =>
          have stores := cache'.stores_write other text world.tree
          rcases wrote : (cache'.write Tree.fileSystem other text).run world.tree with
            ⟨result, after⟩
          rw [wrote] at stores
          rw [run_storeFile_of_parsed found parsed wrote]
          exact Cache.finds_of_stores apart stores finds

theorem finds_execute
    {command : Command} (other : ¬ command.Stores puzzle)
    (finds : world.tree.Finds (cache.path puzzle) (.file bytes)) (limit rounds : Nat) :
    ((command.execute World.host limit rounds).run world).2.tree.Finds
      (cache.path puzzle) (.file bytes) := by
  by_cases stores : ∃ puzzle, command.Stores puzzle
  · obtain ⟨puzzle', stores⟩ := stores
    cases command with
    | store file cache' day =>
        have apart : puzzle ≠ day := fun same => other same.symm
        have stored := finds_storeFile apart finds file cache'
        rcases performed : (storeFile World.host.files file cache' day).run world with
          ⟨result, after⟩
        rw [performed] at stored
        rw [execute, run_bind_of_run performed]
        exact stored
    | _ => exact stores.elim
  · have same := moves_execute (not_exists.1 stores) limit rounds world
    rw [World.SameFiles] at same
    rw [same]
    exact finds

theorem finds_performWith
    {environment : Option String} {arguments : List String}
    (other : ∀ command, reading environment arguments = .ok command →
      ¬ command.Stores puzzle)
    (finds : world.tree.Finds (cache.path puzzle) (.file bytes)) (limit rounds : Nat) :
    ((performWith reading World.host limit rounds environment arguments).run world).2.tree.Finds
      (cache.path puzzle) (.file bytes) := by
  cases named : reading environment arguments with
  | error error =>
      rw [run_performWith_of_error named]
      exact finds
  | ok command =>
      rw [run_performWith named]
      exact finds_execute (other command named) finds limit rounds

/-- Meanwhile the file of the day stays as it is. -/
theorem Meanwhile.finds
    {first later : Tree} (meanwhile : Meanwhile reading puzzle first later)
    (finds : first.Finds (cache.path puzzle) (.file bytes)) :
    later.Finds (cache.path puzzle) (.file bytes) := by
  induction meanwhile with
  | nothing => exact finds
  | performed earlier other limit rounds ih => exact finds_performWith other ih limit rounds

end Kept

/-! ## Storing -/

section Storing

variable {reading : Reading} {environment : Option String} {arguments : List String} {file : Path}
  {cache : Cache} {puzzle : PuzzleDay} {world : World}

theorem run_performWith_store
    (names : reading environment arguments = .ok (.store file cache puzzle))
    {result : Except Failure Unit} {after : World}
    (ran : (storeFile World.host.files file cache puzzle).run world = (result, after))
    (limit rounds : Nat) :
    (performWith reading World.host limit rounds environment arguments).run world =
      (some (exitOf result), after) := by
  rw [run_performWith names, execute, run_bind_of_run ran]
  rfl

/-- What a command that stores a file leaves if it succeeds. -/
structure Copies (file : Path) (cache : Cache) (puzzle : PuzzleDay) (before after : Tree)
    (text : String) : Prop where
  parsed : ∃ program, Program.parse text = .ok program
  original : before.Finds file (.file text.toUTF8)
  kept : after.Finds file (.file text.toUTF8)
  copy : after.Finds (cache.path puzzle) (.file text.toUTF8)

theorem exists_copies
    {after : World}
    (ran : (storeFile World.host.files file cache puzzle).run world = (.ok (), after)) :
    ∃ text, Copies file cache puzzle world.tree after.tree text := by
  cases read : world.tree.read file >>= readText with
  | error error =>
      rw [run_storeFile_of_unreadable read] at ran
      cases ran
  | ok text =>
      have found := Tree.finds_of_readText read
      cases parsed : Program.parse text with
      | error fault =>
          rw [run_storeFile_of_malformed found parsed] at ran
          cases ran
      | ok program =>
          have stores := cache.stores_write puzzle text world.tree
          rcases wrote : (cache.write Tree.fileSystem puzzle text).run world.tree with
            ⟨error | done, tree⟩
          · rw [run_storeFile_of_parsed found parsed wrote] at ran
            cases ran
          · rw [run_storeFile_of_parsed found parsed wrote] at ran
            rw [wrote] at stores
            cases ran
            exact ⟨text, ⟨program, parsed⟩, found, stores.finds found,
              Cache.finds_of_write wrote⟩

/--
A program that was stored stands for its file.  If the program is told to store a file for a day and
succeeds, the file holds the text of a program, and from then on the cache holds that text for that
day, whatever commands are performed but others that store something for that day.  As long as the
file holds it too, any command that takes a program ends in the same way, prints the same and leaves
the same files, whether it is told to take the program from the cache or from the file.  If the file
holds no text, or one of no program, the program fails and changes nothing.  All this is so however
commands are read from arguments.
-/
theorem stored_program_stands_for_file
    (names : reading environment arguments = .ok (.store file cache puzzle))
    (world : World) (limit rounds : Nat) :
    (∀ stored,
      (performWith reading World.host limit rounds environment arguments).run world =
        (some .success, stored) →
      ∃ text program, Program.parse text = .ok program ∧
        world.tree.read file = .ok text.toUTF8 ∧ stored.tree.read file = .ok text.toUTF8 ∧
          ∀ later, Meanwhile reading puzzle stored.tree later →
            later.read (cache.path puzzle) = .ok text.toUTF8 ∧
              (later.read file = .ok text.toUTF8 →
                ∀ command environment environment' arguments arguments',
                  reading environment arguments =
                    .ok (withSource (.cached cache puzzle) command) →
                  reading environment' arguments' = .ok (withSource (.file file) command) →
                    ∀ limit rounds terminal,
                      (performWith reading World.host limit rounds environment arguments).run
                          ⟨later, terminal⟩ =
                        (performWith reading World.host limit rounds environment' arguments').run
                          ⟨later, terminal⟩)) ∧
      (∀ bytes, world.tree.read file = .ok bytes → (∀ text : String, bytes ≠ text.toUTF8) →
        (performWith reading World.host limit rounds environment arguments).run world =
          (some (.failure (.reading file .invalidData)), world)) ∧
      ∀ text fault, world.tree.read file = .ok text.toUTF8 → Program.parse text = .error fault →
        (performWith reading World.host limit rounds environment arguments).run world =
          (some (.failure (.notAProgram file fault)), world) := by
  refine ⟨?_, ?_, ?_⟩
  · intro stored performed
    rcases ran : (storeFile World.host.files file cache puzzle).run world with
      ⟨failure | done, after⟩
    · rw [run_performWith_store names ran] at performed
      cases performed
    · rw [run_performWith_store names ran] at performed
      cases performed
      obtain ⟨text, ⟨program, parsed⟩, original, kept, copy⟩ := exists_copies ran
      refine ⟨text, program, parsed, Tree.read_eq_ok_iff.2 original,
        Tree.read_eq_ok_iff.2 kept, ?_⟩
      intro later meanwhile
      have cached := meanwhile.finds copy
      refine ⟨Tree.read_eq_ok_iff.2 cached, ?_⟩
      intro unchanged command _ _ _ _ fromCache fromFile limit rounds terminal
      have found := Tree.read_eq_ok_iff.1 unchanged
      have loads : (Source.cached cache puzzle).text (World.mk later terminal).tree = .ok text :=
        Source.text_cached cached
      have loads' : (Source.file file).text (World.mk later terminal).tree = .ok text :=
        Source.text_file found
      rw [run_performWith fromCache, run_performWith fromFile,
        run_execute_withSource loads loads' command limit rounds]
  · intro bytes read undecodable
    have unreadable : world.tree.read file >>= readText = .error .invalidData := by
      rw [Tree.bind_readText read, readText_eq_error undecodable]
    have ran := run_storeFile_of_unreadable unreadable cache puzzle
    rw [run_performWith_store names ran, exitOf]
  · intro text fault read malformed
    have found := Tree.read_eq_ok_iff.1 read
    have ran := run_storeFile_of_malformed found malformed cache puzzle
    rw [run_performWith_store names ran, exitOf]

end Storing

def desk : World where
  tree := ⟨[(["w"], .directory), (["w", "p"], .file "104,7,99\n".toUTF8)], ["w"]⟩
  terminal := ⟨[], ""⟩

def storing (day : String) : List String :=
  ["store", "p", "--year", "2019", "--day", day, "--input-dir", "c"]

def runningStored : List String :=
  ["run", "--year", "2019", "--day", "5", "--input-dir", "c"]

def stored : World :=
  ((perform World.host 9 9 none (storing "5")).run desk).2

def storedTwice : World :=
  ((perform World.host 9 9 none (storing "06")).run stored).2

/-- The file is stored for two days, and then the program of the first is run. -/
theorem stored_program_stands_for_file_seven :
    (perform World.host 9 9 none (storing "5")).run desk = (some .success, stored) ∧
      ((perform World.host 9 9 none (storing "06")).run stored).1 = some .success ∧
      (perform World.host 9 9 none runningStored).run storedTwice =
        (perform World.host 9 9 none ["run", "p"]).run storedTwice ∧
      ((perform World.host 9 9 none ["run", "p"]).run storedTwice).1 = some .success ∧
      ((perform World.host 9 9 none ["run", "p"]).run storedTwice).2.terminal.written = "7\n" := by
  have names : ofArguments none (storing "5") = .ok (.store ⟨"p"⟩ ⟨⟨"c"⟩⟩ ⟨2019, 5⟩) := by
    decide +kernel
  have names' : ofArguments none (storing "06") = .ok (.store ⟨"p"⟩ ⟨⟨"c"⟩⟩ ⟨2019, 6⟩) := by
    decide +kernel
  have fromCache : ofArguments none runningStored =
      .ok (withSource (.cached ⟨⟨"c"⟩⟩ ⟨2019, 5⟩) (.run (.file ⟨"p"⟩) "")) := by
    decide +kernel
  have fromFile : ofArguments none ["run", "p"] =
      .ok (withSource (.file ⟨"p"⟩) (.run (.file ⟨"p"⟩) "")) := by
    decide +kernel
  have exits : ((perform World.host 9 9 none (storing "5")).run desk).1 = some .success := by
    decide +kernel
  have performed : (perform World.host 9 9 none (storing "5")).run desk =
      (some .success, stored) :=
    Prod.ext exits rfl
  have other : ∀ command, ofArguments none (storing "06") = .ok command →
      ¬ command.Stores ⟨2019, 5⟩ := by
    intro command named
    rw [names'] at named
    cases named
    exact fun same => by cases same
  have meanwhile : Meanwhile ofArguments ⟨2019, 5⟩ stored.tree storedTwice.tree :=
    .performed .nothing other 9 9
  have unchanged : storedTwice.tree.read ⟨"p"⟩ = desk.tree.read ⟨"p"⟩ := by
    decide +kernel
  obtain ⟨stands, -⟩ := stored_program_stands_for_file names desk 9 9
  obtain ⟨text, program, -, original, -, copied⟩ := stands stored performed
  obtain ⟨-, same⟩ := copied storedTwice.tree meanwhile
  refine ⟨performed, by decide +kernel, ?_, by decide +kernel, by decide +kernel⟩
  exact same (unchanged.trans original) _ none none _ _ fromCache fromFile 9 9
    storedTwice.terminal

end Command

end Intcode
