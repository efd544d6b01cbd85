import Intcode.Cache
import Intcode.Proofs.FileSystem.Growing
import Intcode.Proofs.FileSystem.Joining
import Intcode.Proofs.Text.Numerals

/-!
# Places in a cache

The file of a day lies in the directory of the year, below the root of the cache.  Whatever the root
and whatever the tree, different days have different files, and none lies on the way to another.
-/

namespace Intcode

/-! ## Names of years and days -/

namespace Decimal

theorem toList_text (magnitude : Nat) : (text magnitude).toList = Nat.toDigits 10 magnitude :=
  String.toList_ofList

theorem text_injective {first second : Nat} (same : text first = text second) :
    first = second := by
  have spelled := digits_toDigits first
  rw [← toList_text, same, toList_text] at spelled
  rw [← spelled.ofDigitChars_eq, (digits_toDigits second).ofDigitChars_eq]

/-- Digits lead with a digit, and none of them is a slash. -/
theorem Digits.head?_isDigit {digits : List Char} {value : Nat} (spelled : Digits digits value) :
    ∃ digit, digits.head? = some digit ∧ digit.isDigit = true := by
  obtain ⟨digit, rest, rfl⟩ := List.exists_cons_of_ne_nil spelled.ne_nil
  exact ⟨digit, rfl, spelled.isDigit_of_mem digit List.mem_cons_self⟩

theorem Digits.slash_not_mem {digits : List Char} {value : Nat} (spelled : Digits digits value) :
    '/' ∉ digits := by
  intro listed
  cases spelled.isDigit_of_mem '/' listed

end Decimal

namespace PuzzleDay

theorem isPlain_directoryName (puzzle : PuzzleDay) : Path.IsPlain puzzle.directoryName := by
  have spelled := Decimal.digits_toDigits puzzle.year.toNat
  rw [← Decimal.toList_text] at spelled
  obtain ⟨digit, leads, isDigit⟩ := spelled.head?_isDigit
  exact Path.isPlain_of_isDigit leads isDigit spelled.slash_not_mem

/-- In front of the extension the name of a file spells the day. -/
theorem exists_fileName_eq (puzzle : PuzzleDay) :
    ∃ digits, puzzle.fileName.toList = digits ++ ['.', 't', 'x', 't'] ∧
      Decimal.Digits digits puzzle.day.toNat := by
  have spelled := Decimal.digits_toDigits puzzle.day.toNat
  rw [← Decimal.toList_text] at spelled
  unfold fileName
  split
  · exact ⟨_, by simp, spelled.zero_cons⟩
  · exact ⟨_, by simp, spelled⟩

theorem isPlain_fileName (puzzle : PuzzleDay) : Path.IsPlain puzzle.fileName := by
  obtain ⟨digits, named, spelled⟩ := puzzle.exists_fileName_eq
  obtain ⟨digit, leads, isDigit⟩ := spelled.head?_isDigit
  have leads' : puzzle.fileName.toList.head? = some digit := by
    rw [named, List.head?_append, leads]
    rfl
  apply Path.isPlain_of_isDigit leads' isDigit
  rw [named]
  simp [spelled.slash_not_mem]

/-- A day is known by its two names. -/
theorem eq_of_names
    {first second : PuzzleDay} (directories : first.directoryName = second.directoryName)
    (files : first.fileName = second.fileName) : first = second := by
  obtain ⟨digits, named, spelled⟩ := first.exists_fileName_eq
  obtain ⟨others, named', spelled'⟩ := second.exists_fileName_eq
  rw [files, named'] at named
  have same : others = digits := List.append_cancel_right named
  subst same
  have days : first.day.toNat = second.day.toNat :=
    spelled.ofDigitChars_eq.symm.trans spelled'.ofDigitChars_eq
  have years := Decimal.text_injective directories
  cases first
  cases second
  rw [PuzzleDay.mk.injEq]
  exact ⟨UInt16.toNat_inj.1 years, UInt8.toNat_inj.1 days⟩

end PuzzleDay

/-! ## Paths of days -/

/-- A path is on the way to another when the walk along it, not counting steps that stay, is a part
of the walk along the other. -/
def Path.IsOnWayTo (path other : Path) : Prop :=
  path.isAbsolute = other.isAbsolute ∧
    path.components.filter (· != .here) <+: other.components.filter (· != .here)

namespace Cache

/-- The walk to the root of a cache, in front of the names of a day. -/
def approach (cache : Cache) : List Path.Component :=
  Path.Component.ofPieces cache.root.stem

theorem components_path (cache : Cache) (puzzle : PuzzleDay) :
    (cache.path puzzle).components =
      cache.approach ++ [.entry puzzle.directoryName, .entry puzzle.fileName] :=
  Path.components_join_join puzzle.isPlain_directoryName puzzle.isPlain_fileName cache.root

theorem text_path_ne_empty (cache : Cache) (puzzle : PuzzleDay) :
    (cache.path puzzle).text ≠ "" :=
  Path.text_join_ne_empty puzzle.isPlain_fileName _

/-- No path of a day is on the way to that of another day. -/
theorem not_isOnWayTo
    {puzzle other : PuzzleDay} (apart : puzzle ≠ other) (cache : Cache) :
    ¬ (cache.path puzzle).IsOnWayTo (cache.path other) := by
  rintro ⟨-, leads⟩
  rw [components_path, components_path, List.filter_append, List.filter_append,
    List.prefix_append_right_inj] at leads
  have same := leads.eq_of_length rfl
  obtain ⟨directories, files⟩ : puzzle.directoryName = other.directoryName ∧
      puzzle.fileName = other.fileName := by
    simpa using same
  exact apart (PuzzleDay.eq_of_names directories files)

theorem path_ne {puzzle other : PuzzleDay} (apart : puzzle ≠ other) (cache : Cache) :
    cache.path puzzle ≠ cache.path other := by
  intro same
  apply cache.not_isOnWayTo apart
  rw [same]
  exact ⟨rfl, List.prefix_rfl⟩

/-- The walk to the file of a day ends at the two names of the day. -/
theorem exists_place_eq
    {cache : Cache} {puzzle : PuzzleDay} {tree : Tree} {place : Location}
    (located : tree.locate (cache.path puzzle) = .ok place) :
    ∃ above, tree.walk (tree.origin (cache.path puzzle)) cache.approach = .ok above ∧
      place = above ++ [puzzle.directoryName, puzzle.fileName] := by
  rw [Tree.locate_of_nonempty (cache.text_path_ne_empty puzzle), components_path] at located
  obtain ⟨above, approached, entered⟩ := Tree.exists_walk_of_append located
  exact ⟨above, approached, Tree.eq_of_walk_entries entered⟩

/-- The files of two days lie at one location only if the days are the same, whatever the two
caches. -/
theorem eq_of_place_eq
    {cache cache' : Cache} {puzzle other : PuzzleDay} {tree : Tree} {place : Location}
    (located : tree.locate (cache.path puzzle) = .ok place)
    (located' : tree.locate (cache'.path other) = .ok place) : puzzle = other := by
  obtain ⟨above, -, rfl⟩ := exists_place_eq located
  obtain ⟨above', -, same⟩ := exists_place_eq located'
  obtain ⟨directories, files⟩ : puzzle.directoryName = other.directoryName ∧
      puzzle.fileName = other.fileName := by
    simpa using (List.append_inj' same rfl).2
  exact PuzzleDay.eq_of_names directories files

theorem origin_path_eq (cache : Cache) (tree : Tree) (puzzle other : PuzzleDay) :
    tree.origin (cache.path puzzle) = tree.origin (cache.path other) := by
  unfold Tree.origin path directory
  rw [Path.isAbsolute_join puzzle.isPlain_fileName, Path.isAbsolute_join other.isPlain_fileName,
    Path.isAbsolute_join puzzle.isPlain_directoryName,
    Path.isAbsolute_join other.isPlain_directoryName]

/-- Nor does the file of a day lie above that of another day. -/
theorem not_place_prefix
    {cache : Cache} {puzzle other : PuzzleDay} (apart : puzzle ≠ other) {tree : Tree}
    {place place' : Location} (located : tree.locate (cache.path puzzle) = .ok place)
    (located' : tree.locate (cache.path other) = .ok place') : ¬ place <+: place' := by
  intro leads
  obtain ⟨above, approached, rfl⟩ := exists_place_eq located
  obtain ⟨above', approached', rfl⟩ := exists_place_eq located'
  rw [cache.origin_path_eq tree puzzle other, approached'] at approached
  cases approached
  have same := leads.eq_of_length (by simp)
  rw [← same] at located'
  exact apart (eq_of_place_eq located located')

end Cache

end Intcode
