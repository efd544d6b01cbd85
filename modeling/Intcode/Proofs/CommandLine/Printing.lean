import Intcode.CommandLine.Execution
import Intcode.Proofs.Text.Numerals
import Intcode.Proofs.Transcript.Weaving

/-!
# Printed output

What the batch commands print can be read back.  Values stand on lines of their own, and each line
reads as its value.  A transcript starts with the characters of its ASCII codes, and lists the codes
that are none behind them.
-/

namespace Intcode

/--
A text lists integers when its line feeds cut it into lines that read as the integers, with nothing
behind the last of them.
-/
def Lists (text : List Char) (values : List Int) : Prop :=
  ∃ lines, text.splitOn '\n' = lines ++ [[]] ∧ lines.map Decimal.read? = values.map some

/-- A text shows codes when it starts with the characters of the ASCII ones and lists the others. -/
def Shows (text : List Char) (codes : List Int) : Prop :=
  ∃ shown rest, text = shown ++ rest ∧
    shown.map (fun char => (char.toNat : Int)) = codes.filter (fun code => 0 ≤ code ∧ code ≤ 127) ∧
      Lists rest (codes.filter fun code => ¬ (0 ≤ code ∧ code ≤ 127))

namespace Transcript

theorem lineFeed_not_mem_render (value : Int) : '\n' ∉ Decimal.render value := by
  intro listed
  rcases Decimal.char_of_mem_render listed with isDigit | same | same
  · cases isDigit
  · cases same
  · cases same

theorem toList_valueLine (value : Int) :
    (valueLine value).toList = Decimal.render value ++ ['\n'] := by
  rw [valueLine, String.toList_append, Decimal.text, String.toList_ofList]
  rfl

theorem lists_valueLines (values : List Int) :
    Lists (String.join (values.map valueLine)).toList values := by
  induction values with
  | nil => exact ⟨[], rfl, rfl⟩
  | cons value values ih =>
      obtain ⟨lines, split, reads⟩ := ih
      refine ⟨Decimal.render value :: lines, ?_, ?_⟩
      · rw [List.map_cons, String.join_cons, String.toList_append, toList_valueLine,
          List.append_assoc, List.singleton_append,
          List.splitOn_append_cons_self_of_not_mem (lineFeed_not_mem_render value), split,
          List.cons_append]
      · rw [List.map_cons, List.map_cons, Decimal.read?_render, reads]

end Transcript

namespace Printout

theorem lists_ofValues (values : List Int) (phase : Phase) :
    Lists (String.join (ofValues values phase).texts).toList values :=
  Transcript.lists_valueLines values

theorem shows_ofTranscript (transcript : Transcript) :
    Shows (String.join (ofTranscript transcript).texts).toList transcript.codes := by
  have weaves := transcript.weaves_text_answers
  refine ⟨transcript.text.toList,
    (String.join (transcript.answers.map Transcript.valueLine)).toList, ?_,
    weaves.map_toNat_text, ?_⟩
  · rw [ofTranscript, String.join_cons, String.toList_append]
  · rw [← weaves.answers_eq]
    exact Transcript.lists_valueLines transcript.answers

end Printout

end Intcode
