import Mathlib.Data.List.Basic

/-!
# Segments

A list is cut into segments behind each of its stops, and what stands behind the last stop is a
segment as well, if there is anything.  Every list is cut in exactly one way.  Where each element is
replaced by others, so that stops and nothing else give stops, the segments of the new list are what
the segments of the old one become.
-/

namespace Intcode

variable {α β : Type}

/-- What stands in front of the first stop, and what stands behind it, is told by the list. -/
theorem eq_of_append_stop {stop : α} {piece rest piece' rest' : List α} (plain : stop ∉ piece)
    (plain' : stop ∉ piece') (same : piece ++ stop :: rest = piece' ++ stop :: rest') :
    piece = piece' ∧ rest = rest' := by
  -- if one of the pieces were longer, it would hold the stop behind the other
  rcases List.append_eq_append_iff.1 same with ⟨between, rfl, tail⟩ | ⟨between, rfl, tail⟩
  · cases between with
    | nil => simpa using tail
    | cons first between =>
        obtain ⟨rfl, -⟩ := List.cons.inj tail
        simp at plain'
  · cases between with
    | nil => simpa using tail.symm
    | cons first between =>
        obtain ⟨rfl, -⟩ := List.cons.inj tail
        simp at plain

/-- A list is cut behind each stop: every segment ends with its only stop, except that the last one
may have none. -/
inductive Cuts (stop : α) : List α → List (List α) → Prop where
  | nil : Cuts stop [] []
  | last {piece : List α} (plain : stop ∉ piece) (nonempty : piece ≠ []) : Cuts stop piece [piece]
  | cons {piece rest : List α} {segments : List (List α)} (plain : stop ∉ piece)
      (further : Cuts stop rest segments) :
      Cuts stop (piece ++ stop :: rest) ((piece ++ [stop]) :: segments)

namespace Cuts

variable {stop : α} {whole : List α} {segments : List (List α)}

theorem flatten (cuts : Cuts stop whole segments) : segments.flatten = whole := by
  induction cuts with
  | nil => rfl
  | last plain nonempty => simp
  | cons plain further ih => simp [ih]

theorem whole_ne_nil {segment : List α} (cuts : Cuts stop whole (segment :: segments)) :
    whole ≠ [] := by
  cases cuts with
  | last plain nonempty => exact nonempty
  | cons plain further => exact List.append_ne_nil_of_right_ne_nil _ (List.cons_ne_nil stop _)

/-- A further element in front, unless it is a stop, belongs to the first segment. -/
theorem exists_cons (cuts : Cuts stop whole segments) {element : α} (other : stop ≠ element) :
    ∃ longer, Cuts stop (element :: whole) longer := by
  cases cuts with
  | nil => exact ⟨_, .last (by simp [other]) (List.cons_ne_nil element [])⟩
  | last plain nonempty => exact ⟨_, .last (by simp [other, plain]) (List.cons_ne_nil element _)⟩
  | @cons piece rest segments plain further =>
      have plain' : stop ∉ element :: piece := by simp [other, plain]
      exact ⟨_, .cons plain' further⟩

theorem unique {others : List (List α)} (cuts : Cuts stop whole segments)
    (again : Cuts stop whole others) : others = segments := by
  induction cuts generalizing others with
  | nil =>
      generalize empty : ([] : List α) = whole at again
      cases again with
      | nil => rfl
      | last plain nonempty => exact absurd empty.symm nonempty
      | cons plain further => simp at empty
  | @last piece plain nonempty =>
      cases again with
      | nil => exact absurd rfl nonempty
      | last plain nonempty => rfl
      | cons plain' further => simp at plain
  | @cons piece rest segments plain further ih =>
      generalize same : piece ++ stop :: rest = whole at again
      cases again with
      | nil => simp at same
      | last plain' nonempty =>
          subst same
          simp at plain'
      | @cons piece' rest' others plain' further' =>
          obtain ⟨rfl, rfl⟩ := eq_of_append_stop plain plain' same
          rw [ih further']

/-- Where stops become single stops and other elements become lists without stops, the segments
become the segments. -/
theorem flatMap {stop' : β} {change : α → List β} (cuts : Cuts stop whole segments)
    (stops : change stop = [stop']) (nonempty : ∀ element, change element ≠ [])
    (others : ∀ element, stop' ∈ change element → element = stop) :
    Cuts stop' (whole.flatMap change) (segments.map (·.flatMap change)) := by
  have plainly {piece : List α} (plain : stop ∉ piece) : stop' ∉ piece.flatMap change := by
    intro listed
    obtain ⟨element, inPiece, found⟩ := List.mem_flatMap.1 listed
    rw [others element found] at inPiece
    exact plain inPiece
  induction cuts with
  | nil => exact .nil
  | @last piece plain filled =>
      refine .last (plainly plain) ?_
      obtain ⟨element, rest, rfl⟩ := List.exists_cons_of_ne_nil filled
      simp [nonempty element]
  | @cons piece rest segments plain further ih =>
      rw [List.flatMap_append, List.flatMap_cons, stops, List.map_cons, List.flatMap_append,
        List.flatMap_singleton, stops]
      exact .cons (plainly plain) ih

end Cuts

theorem exists_cuts [DecidableEq α] (stop : α) (whole : List α) :
    ∃ segments, Cuts stop whole segments := by
  induction whole with
  | nil => exact ⟨[], .nil⟩
  | cons element whole ih =>
      obtain ⟨segments, cuts⟩ := ih
      by_cases same : stop = element
      · subst same
        exact ⟨_, .cons (List.not_mem_nil) cuts⟩
      · exact cuts.exists_cons same

end Intcode
