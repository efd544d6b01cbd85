import Mathlib.Data.List.Forall2
import Intcode.Program
import Intcode.Proofs.Instruction.Decoding
import Intcode.Proofs.Text.Numerals
import Intcode.Proofs.Text.Trimming

/-!
# The grammar of program texts

A program text is blank, or it consists of items with a comma between neighbours, and an item is a
numeral with blanks around it.  Reading a text gives the values of its items; a text that is none is
faulted at the first of its pieces between commas that is no item.
-/

namespace Intcode

/-! ## Pieces between commas -/

namespace Text

theorem Blank.comma_not_mem {text : List Char} (blank : Blank text) : ',' ∉ text := by
  intro listed
  have comma : isBlank ',' = false := by decide
  rw [blank ',' listed] at comma
  cases comma

/-- A text is one piece without commas, or such a piece, a comma and a further text. -/
theorem pieces_induction
    {holds : List Char → Prop} (one : ∀ piece, ',' ∉ piece → holds piece)
    (more : ∀ piece rest, ',' ∉ piece → holds rest → holds (piece ++ ',' :: rest))
    (text : List Char) : holds text := by
  -- the piece in front of the first comma is built up from its end, so the text is taken apart
  -- with any piece in front of it
  suffices extended : ∀ piece, ',' ∉ piece → holds (piece ++ text) from extended [] (by simp)
  induction text with
  | nil =>
      intro piece plain
      rw [List.append_nil]
      exact one piece plain
  | cons char text ih =>
      intro piece plain
      by_cases comma : char = ','
      · subst comma
        exact more piece text plain (ih [] (by simp))
      · have longer := ih (piece ++ [char]) (by simp [plain, Ne.symm comma])
        rw [List.append_assoc] at longer
        exact longer

theorem map_trimBlanks_splitOn_blank_append
    {before : List Char} (blank : Blank before) (text : List Char) :
    ((before ++ text).splitOn ',').map trimBlanks = (text.splitOn ',').map trimBlanks := by
  have plainBefore := blank.comma_not_mem
  induction text using pieces_induction with
  | one piece plain =>
      have plain' : ',' ∉ before ++ piece := by simp [plainBefore, plain]
      rw [List.splitOn_eq_singleton plain, List.splitOn_eq_singleton plain', List.map_singleton,
        List.map_singleton, trimBlanks_blank_append blank]
  | more piece rest plain ih =>
      have plain' : ',' ∉ before ++ piece := by simp [plainBefore, plain]
      rw [← List.append_assoc, List.splitOn_append_cons_self_of_not_mem plain',
        List.splitOn_append_cons_self_of_not_mem plain, List.map_cons, List.map_cons,
        trimBlanks_blank_append blank]

theorem map_trimBlanks_splitOn_append_blank
    {after : List Char} (blank : Blank after) (text : List Char) :
    ((text ++ after).splitOn ',').map trimBlanks = (text.splitOn ',').map trimBlanks := by
  have plainAfter := blank.comma_not_mem
  induction text using pieces_induction with
  | one piece plain =>
      have plain' : ',' ∉ piece ++ after := by simp [plain, plainAfter]
      rw [List.splitOn_eq_singleton plain, List.splitOn_eq_singleton plain', List.map_singleton,
        List.map_singleton, trimBlanks_append_blank blank]
  | more piece rest plain ih =>
      rw [List.append_assoc, List.cons_append, List.splitOn_append_cons_self_of_not_mem plain,
        List.splitOn_append_cons_self_of_not_mem plain, List.map_cons, List.map_cons, ih]

/-- Trimming the whole text makes no difference to its trimmed pieces. -/
theorem map_trimBlanks_splitOn_trimBlanks (text : List Char) :
    ((trimBlanks text).splitOn ',').map trimBlanks = (text.splitOn ',').map trimBlanks := by
  obtain ⟨before, after, whole, blankBefore, blankAfter⟩ := (strips_trimBlanks text).around
  calc ((trimBlanks text).splitOn ',').map trimBlanks
      = ((before ++ trimBlanks text).splitOn ',').map trimBlanks :=
        (map_trimBlanks_splitOn_blank_append blankBefore _).symm
    _ = ((before ++ trimBlanks text ++ after).splitOn ',').map trimBlanks :=
        (map_trimBlanks_splitOn_append_blank blankAfter _).symm
    _ = (text.splitOn ',').map trimBlanks := by rw [← whole]

end Text

namespace Program

open Text

/-! ## The grammar -/

inductive Item : List Char → Int → Prop where
  | mk {before number after : List Char} {value : Int} (blankBefore : Blank before)
      (numeral : Decimal.Numeral number value) (blankAfter : Blank after) :
      Item (before ++ number ++ after) value

inductive Items : List Char → List Int → Prop where
  | one {piece : List Char} {value : Int} (item : Item piece value) : Items piece [value]
  | more {piece rest : List Char} {value : Int} {values : List Int} (item : Item piece value)
      (further : Items rest values) : Items (piece ++ ',' :: rest) (value :: values)

/-- A text of blanks denotes the program without cells, and items denote their values. -/
inductive Denotes : List Char → List Int → Prop where
  | blank {text : List Char} (blank : Blank text) : Denotes text []
  | items {text : List Char} {cells : List Int} (items : Items text cells) : Denotes text cells

/-- The first of some pieces that is no item, and its index. -/
structure FirstBad (pieces : List (List Char)) (index : Nat) (piece : List Char) : Prop where
  found : pieces[index]? = some piece
  bad (value : Int) : ¬ Item piece value
  earlier (before : Nat) (other : List Char) (lower : before < index)
    (listed : pieces[before]? = some other) : ∃ value, Item other value

/-! ## Items -/

theorem Item.trimBlanks_numeral
    {piece : List Char} {value : Int} (item : Item piece value) :
    Decimal.Numeral (trimBlanks piece) value := by
  obtain ⟨blankBefore, numeral, blankAfter⟩ := item
  have strips : Strips _ _ :=
    { around := ⟨_, _, rfl, blankBefore, blankAfter⟩
      first := fun char leads => numeral.not_isBlank_of_mem (List.mem_of_head? leads)
      last := fun char ends => numeral.not_isBlank_of_mem (List.mem_of_getLast? ends) }
  rw [strips_iff.1 strips]
  exact numeral

theorem item_iff {piece : List Char} {value : Int} :
    Item piece value ↔ Decimal.read? (trimBlanks piece) = some value := by
  rw [Decimal.read?_eq_some_iff]
  constructor
  · exact Item.trimBlanks_numeral
  · intro numeral
    obtain ⟨before, after, whole, blankBefore, blankAfter⟩ := (strips_trimBlanks piece).around
    rw [whole]
    exact .mk blankBefore numeral blankAfter

theorem Item.comma_not_mem {piece : List Char} {value : Int} (item : Item piece value) :
    ',' ∉ piece := by
  obtain ⟨blankBefore, numeral, blankAfter⟩ := item
  simp [blankBefore.comma_not_mem, numeral.comma_not_mem, blankAfter.comma_not_mem]

theorem Items.forall₂ {text : List Char} {values : List Int} (items : Items text values) :
    List.Forall₂ Item (text.splitOn ',') values := by
  induction items with
  | one item =>
      rw [List.splitOn_eq_singleton item.comma_not_mem]
      exact .cons item .nil
  | more item further ih =>
      rw [List.splitOn_append_cons_self_of_not_mem item.comma_not_mem]
      exact .cons item ih

theorem items_of_forall₂
    {text : List Char} {values : List Int}
    (pieces : List.Forall₂ Item (text.splitOn ',') values) : Items text values := by
  induction text using pieces_induction generalizing values with
  | one piece plain =>
      rw [List.splitOn_eq_singleton plain] at pieces
      cases pieces with
      | cons item further =>
          cases further
          exact .one item
  | more piece rest plain ih =>
      rw [List.splitOn_append_cons_self_of_not_mem plain] at pieces
      cases pieces with
      | cons item further => exact .more item (ih further)

theorem items_iff {text : List Char} {values : List Int} :
    Items text values ↔ List.Forall₂ Item (text.splitOn ',') values :=
  ⟨Items.forall₂, items_of_forall₂⟩

theorem Items.not_blank {text : List Char} {values : List Int} (items : Items text values) :
    ¬ Blank text := by
  intro blank
  have pieces := items.forall₂
  rw [List.splitOn_eq_singleton blank.comma_not_mem] at pieces
  cases pieces with
  | cons item further =>
      have numeral := item.trimBlanks_numeral
      rw [trimBlanks_eq_nil_iff.2 blank] at numeral
      exact numeral.ne_nil rfl

/-! ## Reading pieces -/

theorem readCells_map_trimBlanks (cell : Nat) (pieces : List (List Char)) :
    readCells cell (pieces.map trimBlanks) = readCells cell pieces := by
  induction pieces generalizing cell with
  | nil => rfl
  | cons piece rest ih =>
      have again : trimBlanks (trimBlanks piece) = trimBlanks piece :=
        trim_eq_self (strips_trimBlanks piece).first (strips_trimBlanks piece).last
      simp only [List.map_cons, readCells, again, ih]

/-- Pieces are read when all of them are items. -/
theorem readCells_eq_ok_iff {cell : Nat} {pieces : List (List Char)} {values : List Int} :
    readCells cell pieces = .ok values ↔ List.Forall₂ Item pieces values := by
  induction pieces generalizing cell values with
  | nil =>
      rw [readCells_nil, List.forall₂_nil_left_iff]
      exact ⟨fun same => (Except.ok.inj same).symm, fun same => same ▸ rfl⟩
  | cons piece rest ih =>
      rw [List.forall₂_cons_left_iff]
      cases read : Decimal.read? (trimBlanks piece) with
      | none =>
          rw [readCells_cons_of_none read]
          refine ⟨nofun, ?_⟩
          rintro ⟨value, further, item, -, -⟩
          rw [item_iff.1 item] at read
          cases read
      | some value =>
          rw [readCells_cons_of_some read]
          constructor
          · intro mapped
            obtain ⟨further, others, rfl⟩ := Fault.of_map_ok mapped
            exact ⟨value, further, item_iff.2 read, ih.1 others, rfl⟩
          · rintro ⟨other, further, item, others, rfl⟩
            rw [item_iff.1 item] at read
            cases read
            rw [ih.2 others]
            rfl

theorem FirstBad.of_not_item
    {piece : List Char} (bad : ∀ value, ¬ Item piece value) (rest : List (List Char)) :
    FirstBad (piece :: rest) 0 piece :=
  ⟨rfl, bad, fun before _ lower => absurd lower (Nat.not_lt_zero before)⟩

theorem FirstBad.cons
    {piece other : List Char} {rest : List (List Char)} {value : Int} {index : Nat}
    (first : FirstBad rest index other) (item : Item piece value) :
    FirstBad (piece :: rest) (index + 1) other where
  found := first.found
  bad := first.bad
  earlier before another lower listed := by
    cases before with
    | zero =>
        cases listed
        exact ⟨value, item⟩
    | succ before => exact first.earlier before another (Nat.lt_of_succ_lt_succ lower) listed

/-- Pieces that are not read are faulted at the first of them that is no item. -/
theorem firstBad_of_readCells_error
    {cell : Nat} {pieces : List (List Char)} {fault : Fault}
    (failed : readCells cell pieces = .error fault) :
    ∃ index piece, FirstBad pieces index piece ∧
      fault = .malformedProgram (cell + index) (String.ofList (trimBlanks piece)) := by
  induction pieces generalizing cell with
  | nil => cases failed
  | cons piece rest ih =>
      cases read : Decimal.read? (trimBlanks piece) with
      | none =>
          rw [readCells_cons_of_none read] at failed
          cases failed
          refine ⟨0, piece, .of_not_item (fun value item => ?_) rest, rfl⟩
          rw [item_iff.1 item] at read
          cases read
      | some value =>
          rw [readCells_cons_of_some read] at failed
          obtain ⟨index, other, first, rfl⟩ := ih (Fault.of_map_error failed)
          refine ⟨index + 1, other, first.cons (item_iff.2 read), ?_⟩
          rw [Nat.add_assoc, Nat.add_comm 1]

/-! ## Reading a text -/

theorem parseCells_of_blank {text : List Char} (blank : Blank text) : parseCells text = .ok [] := by
  unfold parseCells
  rw [trimBlanks_eq_nil_iff.2 blank]

/-- The cells of a text that is not blank are read off its pieces. -/
theorem parseCells_of_not_blank {text : List Char} (visible : ¬ Blank text) :
    parseCells text = readCells 0 (text.splitOn ',') := by
  have same : readCells 0 ((trimBlanks text).splitOn ',') = readCells 0 (text.splitOn ',') := by
    rw [← readCells_map_trimBlanks, map_trimBlanks_splitOn_trimBlanks, readCells_map_trimBlanks]
  unfold parseCells
  split
  · next nothing => exact absurd (trimBlanks_eq_nil_iff.1 nothing) visible
  · exact same

theorem parseCells_eq_ok_iff {text : List Char} {cells : List Int} :
    parseCells text = .ok cells ↔ Denotes text cells := by
  by_cases blank : Blank text
  · rw [parseCells_of_blank blank]
    constructor
    · intro same
      cases same
      exact .blank blank
    · intro denotes
      cases denotes with
      | blank blank => rfl
      | items items => exact absurd blank items.not_blank
  · rw [parseCells_of_not_blank blank, readCells_eq_ok_iff, ← items_iff]
    constructor
    · exact .items
    · intro denotes
      cases denotes with
      | blank blank' => exact absurd blank' blank
      | items items => exact items

theorem firstBad_of_parseCells_error
    {text : List Char} {fault : Fault} (failed : parseCells text = .error fault) :
    ∃ cell piece, FirstBad (text.splitOn ',') cell piece ∧
      fault = .malformedProgram cell (String.ofList (trimBlanks piece)) := by
  have visible : ¬ Blank text := by
    intro blank
    rw [parseCells_of_blank blank] at failed
    cases failed
  rw [parseCells_of_not_blank visible] at failed
  obtain ⟨index, piece, first, same⟩ := firstBad_of_readCells_error failed
  rw [Nat.zero_add] at same
  exact ⟨index, piece, first, same⟩

theorem parse_eq_ok_iff {text : String} {program : Program} :
    parse text = .ok program ↔ Denotes text.toList program.cells := by
  rw [← parseCells_eq_ok_iff]
  constructor
  · intro parsed
    obtain ⟨cells, read, rfl⟩ := Fault.of_map_ok parsed
    exact read
  · intro read
    rw [parse, read]
    rfl

/--
The texts that are read as programs are those of the grammar: a text of blanks is the program
without cells, and items with commas between them are the program of their values, in order.  Any
other text is malformed at the first of its pieces between commas that is no item, and is reported
with the index of that piece and its core.
-/
theorem parsing_follows_grammar (text : String) :
    ((∃ program, parse text = .ok program) ↔ ∃ cells, Denotes text.toList cells) ∧
    (∀ program, parse text = .ok program ↔ Denotes text.toList program.cells) ∧
    ((∀ cells, ¬ Denotes text.toList cells) →
      ∃ cell piece core, FirstBad (text.toList.splitOn ',') cell piece ∧ Strips piece core ∧
        parse text = .error (.malformedProgram cell (String.ofList core))) := by
  refine ⟨?_, fun program => parse_eq_ok_iff, ?_⟩
  · constructor
    · rintro ⟨program, parsed⟩
      exact ⟨program.cells, parse_eq_ok_iff.1 parsed⟩
    · rintro ⟨cells, denotes⟩
      exact ⟨⟨cells⟩, parse_eq_ok_iff.2 denotes⟩
  · intro ungrammatical
    cases parsed : parse text with
    | ok program => exact absurd (parse_eq_ok_iff.1 parsed) (ungrammatical program.cells)
    | error fault =>
        obtain ⟨cell, piece, first, rfl⟩ := firstBad_of_parseCells_error (Fault.of_map_error parsed)
        exact ⟨cell, piece, trimBlanks piece, first, strips_trimBlanks piece, rfl⟩

example : parse " 1, - 2 ,," = .error (.malformedProgram 1 "- 2") := by rfl

end Program

end Intcode
