import Mathlib.Data.List.Forall2
import Intcode.Console.Terminal
import Intcode.Proofs.Host.Encoding
import Intcode.Proofs.Text.Segments
import Intcode.Proofs.Text.Trimming

/-!
# Lines of a terminal

A terminal cuts its bytes behind each line feed and answers each request with the next segment: with
the text that it encodes, less its line end, or with an error if it encodes none.  Either way the
segment is gone, so what follows it is answered as if it had not been there, and behind the last
segment there is no line.  Lines that are written with their ends are read back.
-/

namespace Intcode

namespace Console

variable {m : Type → Type} [Monad m]

def readLines (console : Console m) : Nat → m (List (Except HostError (Option String)))
  | 0 => pure []
  | count + 1 => do
      let answer ← console.readLine
      return answer :: (← console.readLines count)

end Console

namespace Terminal

/-! ## Line ends -/

/-- A line is what a text holds in front of the carriage returns and line feeds at its end. -/
structure IsLineOf (line text : List Char) : Prop where
  around : ∃ ending, text = line ++ ending ∧ ∀ char ∈ ending, char = '\r' ∨ char = '\n'
  last (char : Char) (ends : line.getLast? = some char) : ¬ (char = '\r' ∨ char = '\n')

theorem isLineEnd_iff {char : Char} : isLineEnd char = true ↔ char = '\r' ∨ char = '\n' := by
  simp [isLineEnd]

theorem isLineOf_iff {line text : List Char} :
    IsLineOf line text ↔ Text.trimEnd isLineEnd text = line := by
  constructor
  · rintro ⟨⟨ending, rfl, ends⟩, last⟩
    rw [Text.trimEnd_append_members fun char listed => isLineEnd_iff.2 (ends char listed)]
    refine Text.trimEnd_eq_self fun char lastly => ?_
    rw [← Bool.not_eq_true, isLineEnd_iff]
    exact last char lastly
  · rintro rfl
    obtain ⟨ending, whole, ends⟩ := Text.exists_eq_trimEnd_append isLineEnd text
    refine ⟨⟨ending, whole, fun char listed => isLineEnd_iff.1 (ends char listed)⟩, ?_⟩
    intro char lastly
    rw [← isLineEnd_iff, Text.not_member_of_getLast?_trimEnd lastly]
    exact Bool.false_ne_true

/-! ## Segments of the bytes -/

/-- A segment is answered with the line of the text that it encodes, or as invalid. -/
inductive Answers (segment : List UInt8) : Except HostError (Option String) → Prop where
  | line {text line : String} (encodes : segment = encoded text)
      (isLine : IsLineOf line.toList text.toList) : Answers segment (.ok (some line))
  | invalid (undecodable : ∀ text, segment ≠ encoded text) :
      Answers segment (.error .invalidData)

theorem lineText_encoded (text : String) :
    lineText (encoded text) = .ok (String.ofList (Text.trimEnd isLineEnd text.toList)) := by
  unfold lineText
  rw [mk_toArray_eq_toUTF8_iff.2 rfl, readText_toUTF8]
  rfl

theorem answers_lineText (segment : List UInt8) :
    Answers segment ((lineText segment).map some) := by
  by_cases encodes : ∃ text, segment = encoded text
  · obtain ⟨text, rfl⟩ := encodes
    rw [lineText_encoded]
    refine .line rfl (isLineOf_iff.2 ?_)
    rw [String.toList_ofList]
  · have undecodable := not_exists.1 encodes
    have unread : lineText segment = .error .invalidData := by
      unfold lineText
      rw [readText_eq_error fun text same => undecodable text (mk_toArray_eq_toUTF8_iff.1 same)]
      rfl
    rw [unread]
    exact .invalid undecodable

theorem cutLine_of_plain {piece : List UInt8} (plain : lineFeed ∉ piece) :
    cutLine piece = (piece, []) := by
  induction piece with
  | nil => rfl
  | cons byte piece ih =>
      rw [List.mem_cons, not_or] at plain
      rw [cutLine, if_neg (Ne.symm plain.1), ih plain.2]

theorem cutLine_append {piece : List UInt8} (plain : lineFeed ∉ piece) (rest : List UInt8) :
    cutLine (piece ++ lineFeed :: rest) = (piece ++ [lineFeed], rest) := by
  induction piece with
  | nil => rw [List.nil_append, cutLine, if_pos rfl, List.nil_append]
  | cons byte piece ih =>
      rw [List.mem_cons, not_or] at plain
      rw [List.cons_append, cutLine, if_neg (Ne.symm plain.1), ih plain.2, List.cons_append]

theorem cutLine_of_cuts
    {input segment : List UInt8} {segments : List (List UInt8)}
    (cuts : Cuts lineFeed input (segment :: segments)) :
    cutLine input = (segment, segments.flatten) ∧ Cuts lineFeed segments.flatten segments := by
  cases cuts with
  | last plain nonempty => exact ⟨cutLine_of_plain plain, .nil⟩
  | cons plain further =>
      rw [further.flatten]
      exact ⟨cutLine_append plain _, further⟩

theorem readLine_of_ne_nil {terminal : Terminal} (waits : terminal.input ≠ []) :
    terminal.readLine =
      ((lineText (cutLine terminal.input).1).map some,
        { terminal with input := (cutLine terminal.input).2 }) := by
  unfold readLine
  split
  · next empty => exact absurd empty waits
  · rfl

/-- A request takes the first segment, whether it can be read or not, and leaves the others. -/
theorem readLine_of_cuts
    {terminal : Terminal} {segment : List UInt8} {segments : List (List UInt8)}
    (cuts : Cuts lineFeed terminal.input (segment :: segments)) :
    terminal.readLine =
      ((lineText segment).map some, { terminal with input := segments.flatten }) := by
  rw [readLine_of_ne_nil cuts.whole_ne_nil, (cutLine_of_cuts cuts).1]

theorem run_readLines_succ (terminal : Terminal) (count : Nat) :
    (console.readLines (count + 1)).run terminal =
      (terminal.readLine.1 :: ((console.readLines count).run terminal.readLine.2).1,
        ((console.readLines count).run terminal.readLine.2).2) :=
  rfl

theorem run_readLines_of_cuts
    {terminal : Terminal} {segments : List (List UInt8)}
    (cuts : Cuts lineFeed terminal.input segments) (count : Nat) :
    (console.readLines count).run terminal =
      ((segments.take count).map (fun segment => (lineText segment).map some) ++
          List.replicate (count - segments.length) (.ok none),
        { terminal with input := (segments.drop count).flatten }) := by
  induction count generalizing terminal segments with
  | zero =>
      rw [List.drop_zero, cuts.flatten, Nat.zero_sub]
      rfl
  | succ count ih =>
      rw [run_readLines_succ]
      cases segments with
      | nil =>
          have ended : terminal.input = [] := cuts.flatten.symm
          have read : terminal.readLine = (.ok none, terminal) := by
            unfold readLine
            rw [ended]
          rw [read, ih cuts]
          simp [List.replicate_succ]
      | cons segment segments =>
          rw [readLine_of_cuts cuts, ih (cutLine_of_cuts cuts).2, List.length_cons,
            Nat.add_sub_add_right]
          rfl

/-! ## Texts -/

/-- The bytes of a text are cut where its characters are. -/
theorem cuts_encoded
    {chars : List Char} {pieces : List (List Char)} (cuts : Cuts '\n' chars pieces) :
    Cuts lineFeed (encoded (String.ofList chars))
      (pieces.map fun piece => encoded (String.ofList piece)) := by
  simp only [encoded_ofList]
  exact cuts.flatMap utf8EncodeChar_lineFeed (fun _ => String.utf8EncodeChar_ne_nil)
    fun _ => eq_lineFeed_of_mem

/-- A line that can be written: it has no line feed in it and no carriage return at its end. -/
structure IsPlain (line : List Char) : Prop where
  lineFeed : '\n' ∉ line
  last : line.getLast? ≠ some '\r'

/-- A text writes lines, each with a line feed behind it, with or without a carriage return in
front of that; behind the last line, if it is not empty, nothing need stand. -/
inductive Writes : List Char → List String → Prop where
  | nil : Writes [] []
  | last {line : String} (plain : IsPlain line.toList) (nonempty : line ≠ "") :
      Writes line.toList [line]
  | cons {line : String} {ending rest : List Char} {lines : List String}
      (plain : IsPlain line.toList) (ends : ending = ['\n'] ∨ ending = ['\r', '\n'])
      (further : Writes rest lines) : Writes (line.toList ++ ending ++ rest) (line :: lines)

theorem IsPlain.isLineOf {line ending : List Char} (plain : IsPlain line)
    (ends : ∀ char ∈ ending, char = '\r' ∨ char = '\n') : IsLineOf line (line ++ ending) where
  around := ⟨ending, rfl, ends⟩
  last := by
    rintro char lastly (rfl | rfl)
    · exact plain.last lastly
    · exact plain.lineFeed (List.mem_of_getLast? lastly)

theorem Writes.cuts {text : List Char} {lines : List String} (writes : Writes text lines) :
    ∃ pieces, Cuts '\n' text pieces ∧
      List.Forall₂ (fun piece (line : String) => IsLineOf line.toList piece) pieces lines := by
  induction writes with
  | nil => exact ⟨[], .nil, .nil⟩
  | @last line plain nonempty =>
      have isLine : IsLineOf line.toList (line.toList ++ []) := plain.isLineOf (by simp)
      rw [List.append_nil] at isLine
      exact ⟨_, .last plain.lineFeed (by simpa using nonempty), .cons isLine .nil⟩
  | @cons line ending rest lines plain ends further ih =>
      obtain ⟨pieces, cuts, areLines⟩ := ih
      rcases ends with rfl | rfl
      · have isLine : IsLineOf line.toList (line.toList ++ ['\n']) := plain.isLineOf (by simp)
        rw [List.append_assoc]
        exact ⟨_, .cons plain.lineFeed cuts, .cons isLine areLines⟩
      · have isLine : IsLineOf line.toList (line.toList ++ ['\r'] ++ ['\n']) := by
          rw [List.append_assoc]
          exact plain.isLineOf (by simp)
        have unbroken : '\n' ∉ line.toList ++ ['\r'] := by simp [plain.lineFeed]
        have whole :
            line.toList ++ ['\r', '\n'] ++ rest = line.toList ++ ['\r'] ++ '\n' :: rest := by simp
        rw [whole]
        exact ⟨_, .cons unbroken cuts, .cons isLine areLines⟩

/-- From a text every line can be read. -/
theorem run_readLines_of_text
    {terminal : Terminal} {text : String} {pieces : List (List Char)}
    (cuts : Cuts '\n' text.toList pieces) (reads : terminal.input = encoded text) (count : Nat) :
    (console.readLines count).run terminal =
      ((pieces.take count).map
            (fun piece => .ok (some (String.ofList (Text.trimEnd isLineEnd piece)))) ++
          List.replicate (count - pieces.length) (.ok none),
        { terminal with
          input := (pieces.drop count).flatMap fun piece => encoded (String.ofList piece) }) := by
  have bytes := cuts_encoded cuts
  rw [String.ofList_toList, ← reads] at bytes
  have read (piece : List Char) :
      (lineText (encoded (String.ofList piece))).map some =
        .ok (some (String.ofList (Text.trimEnd isLineEnd piece))) := by
    rw [lineText_encoded, String.toList_ofList]
    rfl
  rw [run_readLines_of_cuts bytes, ← List.map_take, ← List.map_drop, List.map_map,
    List.length_map, ← List.flatMap_def]
  simp only [Function.comp_def, read]

/-- Lines that are written are read, and then there are no more. -/
theorem run_readLines_of_writes
    {terminal : Terminal} {text : String} {lines : List String} (writes : Writes text.toList lines)
    (reads : terminal.input = encoded text) (later : Nat) :
    (console.readLines (lines.length + later)).run terminal =
      (lines.map (fun line => .ok (some line)) ++ List.replicate later (.ok none),
        { terminal with input := [] }) := by
  obtain ⟨pieces, cuts, areLines⟩ := writes.cuts
  have many : pieces.length = lines.length := areLines.length_eq
  have trimmed :
      pieces.map (fun piece => String.ofList (Text.trimEnd isLineEnd piece)) = lines := by
    rw [← List.forall₂_eq_eq_eq, List.forall₂_map_left_iff]
    refine areLines.imp fun piece line isLine => ?_
    rw [isLineOf_iff.1 isLine, String.ofList_toList]
  rw [run_readLines_of_text cuts reads, ← many, List.take_of_length_le (Nat.le_add_right _ _),
    List.drop_eq_nil_of_le (Nat.le_add_right _ _), Nat.add_sub_cancel_left, ← trimmed,
    List.map_map]
  rfl

/-- The bytes of a terminal are cut into segments in one way, and the requests are answered with
the segments in order, each by itself, and after that with no line.  If all the bytes are a text, no
request fails, and if lines were written into it, the answers are those lines. -/
theorem lines_stay_in_step :
    (∀ terminal : Terminal, ∃ segments answers,
      Cuts lineFeed terminal.input segments ∧
        (∀ others, Cuts lineFeed terminal.input others → others = segments) ∧
        List.Forall₂ Answers segments answers ∧
        ∀ count, (console.readLines count).run terminal =
          (answers.take count ++ List.replicate (count - answers.length) (.ok none),
            { terminal with input := (segments.drop count).flatten })) ∧
      (∀ (terminal : Terminal) text, terminal.input = encoded text → ∀ count,
        ∀ answer ∈ ((console.readLines count).run terminal).1, ∃ line?, answer = .ok line?) ∧
      ∀ (terminal : Terminal) text lines, Writes text.toList lines → terminal.input = encoded text →
        ∀ later, (console.readLines (lines.length + later)).run terminal =
          (lines.map (fun line => .ok (some line)) ++ List.replicate later (.ok none),
            { terminal with input := [] }) := by
  refine ⟨fun terminal => ?_, fun terminal text reads count => ?_,
    fun terminal text lines writes reads later => run_readLines_of_writes writes reads later⟩
  · obtain ⟨segments, cuts⟩ := exists_cuts lineFeed terminal.input
    refine ⟨segments, segments.map fun segment => (lineText segment).map some, cuts,
      fun others again => cuts.unique again, ?_, fun count => ?_⟩
    · rw [List.forall₂_map_right_iff, List.forall₂_same]
      exact fun segment _ => answers_lineText segment
    · rw [run_readLines_of_cuts cuts, List.map_take, List.length_map]
  · obtain ⟨pieces, cuts⟩ := exists_cuts '\n' text.toList
    rw [run_readLines_of_text cuts reads]
    intro answer listed
    rcases List.mem_append.1 listed with given | ended
    · obtain ⟨piece, -, rfl⟩ := List.mem_map.1 given
      exact ⟨_, rfl⟩
    · exact ⟨none, List.eq_of_mem_replicate ended⟩

/-- Three lines with unlike ends, the last with none, are read with an empty one among them. -/
theorem reads_lines_with_mixed_ends :
    Writes "a\r\n\nb".toList ["a", "", "b"] ∧
      (console.readLines 4).run ⟨encoded "a\r\n\nb", ""⟩ =
        ([.ok (some "a"), .ok (some ""), .ok (some "b"), .ok none], ⟨[], ""⟩) := by
  have plain : IsPlain "a".toList ∧ IsPlain "".toList ∧ IsPlain "b".toList :=
    ⟨⟨by decide, by decide⟩, ⟨by decide, by decide⟩, ⟨by decide, by decide⟩⟩
  have writes : Writes "a\r\n\nb".toList ["a", "", "b"] :=
    .cons plain.1 (.inr rfl) (.cons plain.2.1 (.inl rfl) (.last plain.2.2 (by decide)))
  exact ⟨writes, lines_stay_in_step.2.2 ⟨_, ""⟩ _ _ writes rfl 1⟩

end Terminal

end Intcode
