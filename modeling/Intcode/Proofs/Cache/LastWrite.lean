import Intcode.Proofs.Cache.Places
import Intcode.Proofs.Host.Encoding

/-!
# The last write wins

A cache in a tree of files is a store with the days for keys.  A text that was kept for a day is read
until another one is kept for that day.  Reading changes nothing, and keeping a text changes one
file, if it succeeds, and none otherwise.  Only a file that is missing is read as no text.
-/

namespace Intcode

namespace Tree

theorem bind_readText
    {tree : Tree} {path : Path} {bytes : ByteArray} (read : tree.read path = .ok bytes) :
    tree.read path >>= readText = readText bytes := by
  rw [read]
  rfl

/--
What keeping a file below new directories makes of a tree: it grows, and then, unless something
failed, a file was written in it.
-/
inductive Stores (before : Tree) (path : Path) (bytes : ByteArray) :
    Except HostError Unit → Tree → Prop where
  | failed {error : HostError} {after : Tree} (grows : Grows before after) :
      Stores before path bytes (.error error) after
  | stored {middle after : Tree} (grows : Grows before middle)
      (writes : Writes middle path bytes after) : Stores before path bytes (.ok ()) after

/-- Only the file at the end of the path is changed, and only if nothing failed. -/
theorem Stores.of_file?_ne
    {before after : Tree} {path : Path} {bytes : ByteArray} {result : Except HostError Unit}
    (stores : Stores before path bytes result after) {location : Location}
    (changed : after.file? location ≠ before.file? location) :
    result = .ok () ∧ after.locate path = .ok location := by
  cases stores with
  | failed grows => exact absurd (grows.file?_eq location) changed
  | stored grows writes =>
      refine ⟨rfl, ?_⟩
      by_contra elsewhere
      apply changed
      rw [← grows.file?_eq location, file?, writes.others elsewhere]
      rfl

/-- A file that holds the bytes already holds them still, also if it is the one that is written. -/
theorem Stores.finds
    {before after : Tree} {path other : Path} {bytes : ByteArray}
    {result : Except HostError Unit} (stores : Stores before path bytes result after)
    (finds : before.Finds other (.file bytes)) : after.Finds other (.file bytes) := by
  cases stores with
  | failed grows => exact grows.finds finds
  | stored grows writes =>
      obtain ⟨place, located, stood⟩ := grows.finds finds
      refine ⟨place, writes.keeps.locate located, ?_⟩
      -- Two paths can lead to one file, so the paths being different would not help.
      by_cases here : after.locate path = .ok place
      · obtain ⟨place', located', stands⟩ := writes.file
        rw [here] at located'
        cases located'
        exact stands
      · rw [writes.others here, stood]

end Tree

namespace Cache

/-! ## Reading and writing -/

def textOf : Except HostError ByteArray → Except HostError (Option String)
  | .ok bytes => (readText bytes).map some
  | .error .notFound => .ok none
  | .error error => .error error

theorem run_read (cache : Cache) (puzzle : PuzzleDay) (tree : Tree) :
    (cache.read Tree.fileSystem puzzle).run tree =
      (textOf (tree.read (cache.path puzzle)), tree) := by
  have text : (Tree.fileSystem.readText (cache.path puzzle)).run tree =
      (tree.read (cache.path puzzle) >>= readText, tree) := rfl
  rw [read, run_bind_of_run text]
  cases found : tree.read (cache.path puzzle) with
  | error error => cases error <;> rfl
  | ok bytes =>
      rw [← found, Tree.bind_readText found, found, textOf]
      by_cases decodes : ∃ text : String, bytes = text.toUTF8
      · obtain ⟨text, rfl⟩ := decodes
        rw [readText_toUTF8]
        rfl
      · rw [readText_eq_error (not_exists.1 decodes)]
        rfl

structure Answers (cache : Cache) (puzzle : PuzzleDay) (tree : Tree)
    (result : Except HostError (Option String)) : Prop where
  text {text : String} (finds : tree.Finds (cache.path puzzle) (.file text.toUTF8)) :
    result = .ok (some text)
  missing (nothing : ∀ node, ¬ tree.Finds (cache.path puzzle) node)
    (free : ¬ tree.Obstructed (cache.path puzzle)) : result = .ok none
  obstructed (obstructed : tree.Obstructed (cache.path puzzle)) :
    result = .error .notADirectory
  directory (finds : tree.Finds (cache.path puzzle) .directory) : result = .error .isADirectory
  undecodable {bytes : ByteArray} (finds : tree.Finds (cache.path puzzle) (.file bytes))
    (undecodable : ∀ text : String, bytes ≠ text.toUTF8) : result = .error .invalidData

theorem answers_textOf (cache : Cache) (puzzle : PuzzleDay) (tree : Tree) :
    Answers cache puzzle tree (textOf (tree.read (cache.path puzzle))) where
  text finds := by
    rw [Tree.read_eq_ok_iff.2 finds, textOf, readText_toUTF8]
    rfl
  missing nothing free := by
    rw [Tree.read_of_missing (cache.text_path_ne_empty puzzle) nothing free]
    rfl
  obstructed obstructed := by
    rw [Tree.read_of_obstructed (cache.text_path_ne_empty puzzle) obstructed]
    rfl
  directory finds := by
    rw [Tree.read_of_directory finds]
    rfl
  undecodable finds undecodable := by
    rw [Tree.read_eq_ok_iff.2 finds, textOf, readText_eq_error undecodable]
    rfl

/-- Keeping a text stores its bytes in the file of the day. -/
theorem stores_write (cache : Cache) (puzzle : PuzzleDay) (text : String) (tree : Tree) :
    tree.Stores (cache.path puzzle) text.toUTF8
      ((cache.write Tree.fileSystem puzzle text).run tree).1
      ((cache.write Tree.fileSystem puzzle text).run tree).2 := by
  have grows := Tree.moves_makeDirectories (cache.directory puzzle) tree
  rcases made : (Tree.fileSystem.makeDirectories (cache.directory puzzle)).run tree with
    ⟨error | done, middle⟩
  · rw [made] at grows
    rw [write, run_bind_of_run made]
    exact .failed grows
  · rw [made] at grows
    rw [write, run_bind_of_run made]
    change tree.Stores _ _
      ((Tree.update (·.write (cache.path puzzle) text.toUTF8)).run middle).1
      ((Tree.update (·.write (cache.path puzzle) text.toUTF8)).run middle).2
    cases wrote : middle.write (cache.path puzzle) text.toUTF8 with
    | error error =>
        rw [Tree.run_update_of_error wrote]
        exact .failed grows
    | ok after =>
        rw [Tree.run_update_of_ok wrote]
        exact .stored grows (Tree.writes_of_write wrote)

/-- What is kept for another day, in whatever cache, leaves the file of a day as it is. -/
theorem finds_of_stores
    {cache cache' : Cache} {puzzle other : PuzzleDay} {before after : Tree}
    {bytes bytes' : ByteArray} {result : Except HostError Unit} (apart : puzzle ≠ other)
    (stores : before.Stores (cache'.path other) bytes' result after)
    (finds : before.Finds (cache.path puzzle) (.file bytes)) :
    after.Finds (cache.path puzzle) (.file bytes) := by
  cases stores with
  | failed grows => exact grows.finds finds
  | stored grows writes =>
      obtain ⟨place, located, stood⟩ := grows.finds finds
      have located' := writes.keeps.locate located
      refine ⟨place, located', ?_⟩
      -- The two roots may be one directory under two names, so only the names of the days tell.
      rw [writes.others, stood]
      intro same
      exact apart (eq_of_place_eq located' same)

/-! ## Calls -/

inductive Call where
  | read (puzzle : PuzzleDay)
  | write (puzzle : PuzzleDay) (text : String)

/-- The tree that a call leaves, whether it succeeds or not. -/
def step (cache : Cache) (tree : Tree) : Call → Tree
  | .read puzzle => ((cache.read Tree.fileSystem puzzle).run tree).2
  | .write puzzle text => ((cache.write Tree.fileSystem puzzle text).run tree).2

def after (cache : Cache) (tree : Tree) (calls : List Call) : Tree :=
  calls.foldl cache.step tree

theorem finds_step
    {cache : Cache} {puzzle : PuzzleDay} {tree : Tree} {bytes : ByteArray} {call : Call}
    (finds : tree.Finds (cache.path puzzle) (.file bytes))
    (unwritten : ∀ text, call ≠ .write puzzle text) :
    (cache.step tree call).Finds (cache.path puzzle) (.file bytes) := by
  cases call with
  | read other =>
      rw [step, run_read]
      exact finds
  | write other text =>
      have apart : puzzle ≠ other := by
        rintro rfl
        exact unwritten text rfl
      exact finds_of_stores apart (cache.stores_write other text tree) finds

/-- The file of a day stays as it is until a text is kept for that day. -/
theorem finds_after
    {cache : Cache} {puzzle : PuzzleDay} {tree : Tree} {bytes : ByteArray} {calls : List Call}
    (finds : tree.Finds (cache.path puzzle) (.file bytes))
    (unwritten : ∀ text, Call.write puzzle text ∉ calls) :
    (cache.after tree calls).Finds (cache.path puzzle) (.file bytes) := by
  induction calls generalizing tree with
  | nil => exact finds
  | cons call calls ih =>
      apply ih
      · apply finds_step finds
        rintro text rfl
        exact unwritten text List.mem_cons_self
      · intro text listed
        exact unwritten text (List.mem_cons_of_mem call listed)

theorem finds_of_write
    {cache : Cache} {puzzle : PuzzleDay} {text : String} {tree written : Tree}
    (wrote : (cache.write Tree.fileSystem puzzle text).run tree = (.ok (), written)) :
    written.Finds (cache.path puzzle) (.file text.toUTF8) := by
  have stores := cache.stores_write puzzle text tree
  rw [wrote] at stores
  cases stores with
  | stored grows writes => exact writes.file

/--
A cache in a tree of files is a store with the days for keys in which the last write wins.  The
paths of different days differ, none is on the way to another, and no file of a day lies above that
of another.  After a text was kept for a day, and any calls but others that keep a text for that
day, it is the text that is read.  Reading answers with the text that is there, with none if the
file is missing, and with an error if something else is in its place, and changes nothing.  Keeping
a text changes the file of the day only, and that only if it succeeds.
-/
theorem last_write_wins (cache : Cache) :
    (∀ puzzle other, puzzle ≠ other →
      cache.path puzzle ≠ cache.path other ∧ ¬ (cache.path puzzle).IsOnWayTo (cache.path other) ∧
        ∀ (tree : Tree) place place', tree.locate (cache.path puzzle) = .ok place →
          tree.locate (cache.path other) = .ok place' → ¬ place <+: place') ∧
      (∀ tree puzzle text written calls,
        (cache.write Tree.fileSystem puzzle text).run tree = (.ok (), written) →
        (∀ other, Call.write puzzle other ∉ calls) →
          (cache.read Tree.fileSystem puzzle).run (cache.after written calls) =
            (.ok (some text), cache.after written calls)) ∧
      (∀ tree puzzle, ∃ result,
        (cache.read Tree.fileSystem puzzle).run tree = (result, tree) ∧
          Answers cache puzzle tree result) ∧
      ∀ tree puzzle text result written,
        (cache.write Tree.fileSystem puzzle text).run tree = (result, written) →
          ∀ location, written.file? location ≠ tree.file? location →
            result = .ok () ∧ written.locate (cache.path puzzle) = .ok location := by
  refine ⟨?_, ?_, ?_, ?_⟩
  · intro puzzle other apart
    exact ⟨cache.path_ne apart, cache.not_isOnWayTo apart,
      fun tree place place' => not_place_prefix apart⟩
  · intro tree puzzle text written calls wrote unwritten
    have finds := finds_after (finds_of_write wrote) unwritten
    rw [run_read, (cache.answers_textOf puzzle (cache.after written calls)).text finds]
  · intro tree puzzle
    exact ⟨_, cache.run_read puzzle tree, cache.answers_textOf puzzle tree⟩
  · intro tree puzzle text result written wrote location changed
    have stores := cache.stores_write puzzle text tree
    rw [wrote] at stores
    exact stores.of_file?_ne changed

/-- A working directory with a cache `c` that has a file in place of the directory of a year. -/
def crowded : Tree where
  nodes := [(["w"], .directory), (["w", "c"], .directory), (["w", "c", "2020"], .file "x".toUTF8)]
  workingDirectory := ["w"]

/-- A text is kept, then one for another day of the year, and one for another year fails. -/
theorem last_write_wins_crowded :
    ∃ written, ((⟨⟨"c"⟩⟩ : Cache).write Tree.fileSystem ⟨2019, 5⟩ "7").run crowded =
        (.ok (), written) ∧
      (((⟨⟨"c"⟩⟩ : Cache).write Tree.fileSystem ⟨2020, 5⟩ "9").run written).1 =
        .error .alreadyExists ∧
      (((⟨⟨"c"⟩⟩ : Cache).read Tree.fileSystem ⟨2019, 5⟩).run
        ((⟨⟨"c"⟩⟩ : Cache).after written [.write ⟨2019, 6⟩ "8", .write ⟨2020, 5⟩ "9"])).1 =
          .ok (some "7") := by
  have wrote : (((⟨⟨"c"⟩⟩ : Cache).write Tree.fileSystem ⟨2019, 5⟩ "7").run crowded).1 =
      .ok () := by
    decide +kernel
  have taken : (((⟨⟨"c"⟩⟩ : Cache).write Tree.fileSystem ⟨2020, 5⟩ "9").run
      (((⟨⟨"c"⟩⟩ : Cache).write Tree.fileSystem ⟨2019, 5⟩ "7").run crowded).2).1 =
        .error .alreadyExists := by
    decide +kernel
  obtain ⟨-, wins, -⟩ := last_write_wins ⟨⟨"c"⟩⟩
  have reads := wins crowded ⟨2019, 5⟩ "7" _ [.write ⟨2019, 6⟩ "8", .write ⟨2020, 5⟩ "9"]
    (Prod.ext wrote rfl) (by simp)
  exact ⟨_, Prod.ext wrote rfl, taken, congrArg Prod.fst reads⟩

end Cache

end Intcode
