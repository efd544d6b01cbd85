import Intcode.FileSystem.Path

/-!
# Joining names to paths

A name that is joined to a path becomes the last step of the walk along it.  What comes before the
step depends on the path alone, however the path is written.
-/

namespace Intcode

namespace Path

/-! ## Steps of pieces -/

namespace Component

def ofPieces (pieces : List (List Char)) : List Component :=
  (pieces.filter fun piece => !piece.isEmpty).map ofName

theorem ofNames_append_singleton
    (pieces : List (List Char)) {name : List Char} (nonempty : name ≠ []) :
    ofNames (pieces ++ [name]) = ofPieces pieces ++ [ofName name] := by
  obtain ⟨char, chars, rfl⟩ := List.exists_cons_of_ne_nil nonempty
  induction pieces with
  | nil => rfl
  | cons piece rest ih =>
      cases piece with
      | nil =>
          have skipped : ofNames ([] :: (rest ++ [char :: chars])) =
              ofNames (rest ++ [char :: chars]) := by
            cases rest <;> rfl
          rw [List.cons_append, skipped, ih]
          rfl
      | cons first others =>
          rw [List.cons_append, ofNames, ih]
          · rfl
          · exact nofun
          · exact nofun

theorem ofPieces_append_singleton
    (pieces : List (List Char)) {name : List Char} (nonempty : name ≠ []) :
    ofPieces (pieces ++ [name]) = ofPieces pieces ++ [ofName name] := by
  have visible : name.isEmpty = false := by simpa using nonempty
  simp [ofPieces, visible]

end Component

/-! ## Plain names -/

structure IsPlain (name : String) : Prop where
  nonempty : name.toList ≠ []
  unslashed : '/' ∉ name.toList
  component : Component.ofName name.toList = .entry name

theorem isPlain_of_isDigit
    {name : String} {digit : Char} (leads : name.toList.head? = some digit)
    (isDigit : digit.isDigit = true) (unslashed : '/' ∉ name.toList) : IsPlain name where
  nonempty := by
    intro empty
    rw [empty] at leads
    cases leads
  unslashed := unslashed
  component := by
    have apart (rest : List Char) : name.toList ≠ '.' :: rest := by
      intro same
      rw [same] at leads
      cases leads
      cases isDigit
    rw [Component.ofName, if_neg (apart []), if_neg (apart ['.']), String.ofList_toList]

/-! ## Joining -/

def pieces (path : Path) : List (List Char) :=
  path.text.toList.splitOn '/'

def base (path : Path) : List Char :=
  (path.join "").text.toList

def stem (path : Path) : List (List Char) :=
  (path.base.splitOn '/').dropLast

theorem toList_join (path : Path) (name : String) :
    (path.join name).text.toList = path.base ++ name.toList := by
  unfold base join
  split <;> simp

/-- Nothing stands in front of the name, or a slash does right before it. -/
theorem base_eq_nil_or_concat (path : Path) :
    path.base = [] ∨ ∃ front, path.base = front ++ ['/'] := by
  unfold base join
  split
  · next none => exact .inl (by simpa using none)
  · next slash => exact .inr (by simpa using List.getLast?_eq_some_iff.1 slash)
  · exact .inr ⟨path.text.toList, by simp⟩

theorem base_of_getLast?
    {path : Path} {last : Char} (ends : path.text.toList.getLast? = some last)
    (apart : last ≠ '/') : path.base = path.text.toList ++ ['/'] := by
  unfold base join
  split
  · next none =>
    rw [none] at ends
    cases ends
  · next slash =>
    rw [slash] at ends
    exact absurd (Option.some.inj ends).symm apart
  · simp

/-- The name is the last piece. -/
theorem pieces_join {name : String} (plain : IsPlain name) (path : Path) :
    (path.join name).pieces = path.stem ++ [name.toList] := by
  have single := List.splitOn_eq_singleton plain.unslashed
  rw [pieces, toList_join, stem]
  rcases path.base_eq_nil_or_concat with empty | ⟨front, whole⟩
  · rw [empty, List.nil_append, single]
    rfl
  · rw [whole, List.append_assoc, List.singleton_append, List.splitOn_append_cons_self, single,
      List.splitOn_append_cons_self, List.splitOn_nil, List.dropLast_concat]

theorem base_join {name : String} (plain : IsPlain name) (path : Path) :
    (path.join name).base = (path.join name).text.toList ++ ['/'] := by
  have last := List.getLast?_eq_some_getLast plain.nonempty
  have ends : (path.join name).text.toList.getLast? =
      some (name.toList.getLast plain.nonempty) := by
    rw [toList_join, List.getLast?_append, last]
    rfl
  apply base_of_getLast? ends
  intro slash
  exact plain.unslashed (slash ▸ List.getLast_mem plain.nonempty)

/-- A second name comes behind the first. -/
theorem stem_join {name : String} (plain : IsPlain name) (path : Path) :
    (path.join name).stem = path.stem ++ [name.toList] := by
  rw [stem, base_join plain, List.splitOn_append_cons_self, List.splitOn_nil,
    List.dropLast_concat, ← pieces, pieces_join plain]

theorem isAbsolute_join {name : String} (plain : IsPlain name) (path : Path) :
    (path.join name).isAbsolute = path.isAbsolute := by
  obtain ⟨char, chars, spelled⟩ := List.exists_cons_of_ne_nil plain.nonempty
  have apart : char ≠ '/' := by
    rintro rfl
    exact plain.unslashed (spelled ▸ List.mem_cons_self)
  rw [isAbsolute, isAbsolute, toList_join]
  cases text : path.text.toList with
  | nil => simp [base, join, text, spelled, apart]
  | cons first rest =>
      have leads : path.base.head? = some first := by
        unfold base join
        split <;> simp [text]
      rw [List.head?_append, leads]
      rfl

theorem text_join_ne_empty {name : String} (plain : IsPlain name) (path : Path) :
    (path.join name).text ≠ "" := by
  intro empty
  have nothing := path.toList_join name
  rw [empty] at nothing
  exact plain.nonempty (List.append_eq_nil_iff.1 nothing.symm).2

/-- The walk along a path with two names joined to it ends with the steps to the two entries. -/
theorem components_join_join
    {first second : String} (plain : IsPlain first) (plain' : IsPlain second) (path : Path) :
    ((path.join first).join second).components =
      Component.ofPieces path.stem ++ [.entry first, .entry second] := by
  rw [components, ← pieces, pieces_join plain', stem_join plain,
    Component.ofNames_append_singleton _ plain'.nonempty,
    Component.ofPieces_append_singleton _ plain.nonempty, plain.component, plain'.component,
    List.append_assoc]
  rfl

end Path

end Intcode
