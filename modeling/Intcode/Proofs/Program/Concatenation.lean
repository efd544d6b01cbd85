import Intcode.Proofs.Program.Grammar

/-!
# Programs put together

A comma between two program texts puts their programs together: the cells of the second stand behind
those of the first, and what is malformed in the second is found as many cells further on.  A blank
text is a program by itself, but beside a comma it is an item that is missing.
-/

namespace Intcode

namespace Program

open Text

/-! ## Pieces of two texts -/

/-- Pieces behind some that are read are counted on from them. -/
theorem readCells_append_of_ok
    {cell : Nat} {first : List (List Char)} {values : List Int}
    (read : readCells cell first = .ok values) (second : List (List Char)) :
    readCells cell (first ++ second) =
      (readCells (cell + values.length) second).map (values ++ ·) := by
  induction first generalizing cell values with
  | nil =>
      cases read
      cases rest : readCells cell second <;> simp [rest, Except.map]
  | cons piece rest ih =>
      cases read' : Decimal.read? (trimBlanks piece) with
      | none =>
          rw [readCells_cons_of_none read'] at read
          cases read
      | some value =>
          rw [readCells_cons_of_some read'] at read
          obtain ⟨others, readOthers, rfl⟩ := Fault.of_map_ok read
          rw [List.cons_append, readCells_cons_of_some read', ih readOthers, List.length_cons,
            Nat.add_right_comm, Nat.add_assoc]
          cases readCells (cell + (others.length + 1)) second <;> rfl

/-- Pieces behind some that fault are not looked at. -/
theorem readCells_append_of_error
    {cell : Nat} {first : List (List Char)} {fault : Fault}
    (failed : readCells cell first = .error fault) (second : List (List Char)) :
    readCells cell (first ++ second) = .error fault := by
  induction first generalizing cell with
  | nil => cases failed
  | cons piece rest ih =>
      cases read : Decimal.read? (trimBlanks piece) with
      | none =>
          rw [readCells_cons_of_none read] at failed
          rw [List.cons_append, readCells_cons_of_none read, failed]
      | some value =>
          rw [readCells_cons_of_some read] at failed
          rw [List.cons_append, readCells_cons_of_some read, ih (Fault.of_map_error failed)]
          rfl

/-- Pieces that are counted from a later cell on fault as many cells later, with the same token. -/
theorem readCells_add_of_error
    {cell index : Nat} {pieces : List (List Char)} {token : String}
    (failed : readCells cell pieces = .error (.malformedProgram index token)) (more : Nat) :
    readCells (more + cell) pieces = .error (.malformedProgram (more + index) token) := by
  induction pieces generalizing cell with
  | nil => cases failed
  | cons piece rest ih =>
      cases read : Decimal.read? (trimBlanks piece) with
      | none =>
          rw [readCells_cons_of_none read] at failed ⊢
          cases failed
          rfl
      | some value =>
          rw [readCells_cons_of_some read] at failed ⊢
          rw [Nat.add_assoc, ih (Fault.of_map_error failed)]
          rfl

theorem readCells_blank {piece : List Char} (blank : Blank piece) (cell : Nat)
    (rest : List (List Char)) :
    readCells cell (piece :: rest) = .error (.malformedProgram cell "") := by
  have nothing : trimBlanks piece = [] := trimBlanks_eq_nil_iff.2 blank
  rw [readCells_cons_of_none (by rw [nothing]; rfl), nothing]

/-! ## Two texts -/

/-- The cells of two texts with a comma between them are read off the pieces of both. -/
theorem parseCells_append (first second : List Char) :
    parseCells (first ++ ',' :: second) =
      readCells 0 (first.splitOn ',' ++ second.splitOn ',') := by
  have visible : ¬ Blank (first ++ ',' :: second) :=
    fun blank => blank.comma_not_mem (by simp)
  rw [parseCells_of_not_blank visible, List.splitOn_append_cons_self]

theorem parseCells_append_of_ok
    {first : List Char} {values : List Int} (visible : ¬ Blank first)
    (read : parseCells first = .ok values) (second : List Char) :
    parseCells (first ++ ',' :: second) =
      (readCells values.length (second.splitOn ',')).map (values ++ ·) := by
  rw [parseCells_of_not_blank visible] at read
  rw [parseCells_append, readCells_append_of_ok read, Nat.zero_add]

theorem parseCells_append_of_error
    {first : List Char} {fault : Fault} (failed : parseCells first = .error fault)
    (second : List Char) : parseCells (first ++ ',' :: second) = .error fault := by
  have visible : ¬ Blank first := by
    intro blank
    rw [parseCells_of_blank blank] at failed
    cases failed
  rw [parseCells_of_not_blank visible] at failed
  rw [parseCells_append, readCells_append_of_error failed]

theorem parse_eq_ok_iff_parseCells {text : String} {cells : List Int} :
    parse text = .ok ⟨cells⟩ ↔ parseCells text.toList = .ok cells := by
  rw [parse_eq_ok_iff, parseCells_eq_ok_iff]

theorem parse_eq_error_iff_parseCells {text : String} {fault : Fault} :
    parse text = .error fault ↔ parseCells text.toList = .error fault := by
  unfold parse
  cases parseCells text.toList <;> simp [Except.map]

/--
Parsing carries a comma between texts over to the programs.  Two texts that are not blank and are
read give the cells of the first and then those of the second.  If the second is malformed, so is
the whole, at the same token and as many cells further on as the first has; if the first is
malformed, so is the whole, at the same cell and token, whatever the second is.  A blank text beside
the comma is malformed as the item that is missing: in front of it at once, and behind it after the
cells of the other.
-/
theorem parsing_carries_over_commas (first second : String) :
    (∀ cells others, ¬ Blank first.toList → ¬ Blank second.toList →
      parse first = .ok ⟨cells⟩ → parse second = .ok ⟨others⟩ →
        parse (first ++ "," ++ second) = .ok ⟨cells ++ others⟩) ∧
    (∀ cells cell token, ¬ Blank first.toList →
      parse first = .ok ⟨cells⟩ → parse second = .error (.malformedProgram cell token) →
        parse (first ++ "," ++ second) =
          .error (.malformedProgram (cells.length + cell) token)) ∧
    (∀ cell token, parse first = .error (.malformedProgram cell token) →
      parse (first ++ "," ++ second) = .error (.malformedProgram cell token)) ∧
    (Blank first.toList → parse (first ++ "," ++ second) = .error (.malformedProgram 0 "")) ∧
    ∀ cells, cells ≠ [] → parse first = .ok ⟨cells⟩ → Blank second.toList →
      parse (first ++ "," ++ second) = .error (.malformedProgram cells.length "") := by
  have whole : (first ++ "," ++ second).toList = first.toList ++ ',' :: second.toList := by
    simp
  simp only [parse_eq_ok_iff_parseCells, parse_eq_error_iff_parseCells, whole]
  refine ⟨?_, ?_, ?_, ?_, ?_⟩
  · intro cells others visible visible' read readOthers
    rw [parseCells_of_not_blank visible'] at readOthers
    have further : readCells cells.length (second.toList.splitOn ',') = .ok others :=
      readCells_eq_ok_iff.2 (readCells_eq_ok_iff.1 readOthers)
    rw [parseCells_append_of_ok visible read, further]
    rfl
  · intro cells cell token visible read failed
    have visible' : ¬ Blank second.toList := by
      intro blank
      rw [parseCells_of_blank blank] at failed
      cases failed
    rw [parseCells_of_not_blank visible'] at failed
    have further := readCells_add_of_error failed cells.length
    rw [Nat.add_zero] at further
    rw [parseCells_append_of_ok visible read, further]
    rfl
  · intro cell token failed
    exact parseCells_append_of_error failed second.toList
  · intro blank
    rw [parseCells_append, List.splitOn_eq_singleton blank.comma_not_mem]
    exact readCells_blank blank 0 _
  · intro cells nonempty read blank
    have visible : ¬ Blank first.toList := by
      intro blank'
      rw [parseCells_of_blank blank'] at read
      exact nonempty (Except.ok.inj read).symm
    rw [parseCells_append_of_ok visible read, List.splitOn_eq_singleton blank.comma_not_mem,
      readCells_blank blank]
    rfl

/-- Of the texts `1, 2` and ` -3` both are read, the item behind `-3` is malformed, and a blank text
behind the comma is an item that is missing. -/
theorem parsing_carries_over_commas_minus_three :
    parse ("1, 2" ++ "," ++ " -3") = .ok ⟨[1, 2, -3]⟩ ∧
      parse ("1, 2" ++ "," ++ "-3,x ") = .error (.malformedProgram 3 "x") ∧
      parse ("-3,x " ++ "," ++ "1, 2") = .error (.malformedProgram 1 "x") ∧
      parse (" " ++ "," ++ "1, 2") = .error (.malformedProgram 0 "") ∧
      parse ("1, 2" ++ "," ++ " ") = .error (.malformedProgram 2 "") := by
  have visible : ¬ Blank "1, 2".toList :=
    fun blank => absurd (blank '1' (by decide)) (by decide)
  have visible' : ¬ Blank " -3".toList :=
    fun blank => absurd (blank '-' (by decide)) (by decide)
  have blank : Blank " ".toList := List.forall_mem_singleton.2 (by decide)
  have read : parse "1, 2" = .ok ⟨[1, 2]⟩ := by rfl
  have failed : parse "-3,x " = .error (.malformedProgram 1 "x") := by rfl
  obtain ⟨both, -⟩ := parsing_carries_over_commas "1, 2" " -3"
  obtain ⟨-, behind, -⟩ := parsing_carries_over_commas "1, 2" "-3,x "
  obtain ⟨-, -, before, -⟩ := parsing_carries_over_commas "-3,x " "1, 2"
  obtain ⟨-, -, -, absent, -⟩ := parsing_carries_over_commas " " "1, 2"
  obtain ⟨-, -, -, -, missing⟩ := parsing_carries_over_commas "1, 2" " "
  exact ⟨both [1, 2] [-3] visible visible' read rfl, behind [1, 2] 1 "x" visible read failed,
    before 1 "x" failed, absent blank, missing [1, 2] nofun read blank⟩

end Program

end Intcode
