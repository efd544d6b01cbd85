import Intcode.Transcript

/-!
# Text and answers

A transcript shows its codes in two views, each of which leaves out what the other shows.  The codes
are woven from the two: each position holds the code of the next character or the next answer, and
its code tells which.  So a list of codes is woven in one way only, and a session shows the same
however it is cut into transcripts.
-/

namespace Intcode

namespace Transcript

/-- Codes are woven from characters and answers when each position, as labelled, holds an ASCII
code, that of the next character, or any other code, and that is the next answer. -/
inductive Weaves : List Bool → List Char → List Int → List Int → Prop where
  | nil : Weaves [] [] [] []
  | character {char : Char} {code : Int} {labels : List Bool} {text : List Char}
      {answers codes : List Int} (same : (char.toNat : Int) = code) (ascii : code ≤ 127)
      (further : Weaves labels text answers codes) :
      Weaves (true :: labels) (char :: text) answers (code :: codes)
  | answer {code : Int} {labels : List Bool} {text : List Char} {answers codes : List Int}
      (outside : ¬ (0 ≤ code ∧ code ≤ 127)) (further : Weaves labels text answers codes) :
      Weaves (false :: labels) text (code :: answers) (code :: codes)

namespace Weaves

variable {labels labels' : List Bool} {text text' : List Char} {answers answers' codes : List Int}

theorem within_ascii {char : Char} {code : Int} (same : (char.toNat : Int) = code)
    (ascii : code ≤ 127) : 0 ≤ code ∧ code ≤ 127 := by
  subst same
  exact ⟨Int.natCast_nonneg _, ascii⟩

theorem labels_eq (weaves : Weaves labels text answers codes) :
    labels = codes.map fun code => decide (0 ≤ code ∧ code ≤ 127) := by
  induction weaves with
  | nil => rfl
  | character same ascii further ih =>
      rw [List.map_cons, ← ih, decide_eq_true (within_ascii same ascii)]
  | answer outside further ih => rw [List.map_cons, ← ih, decide_eq_false outside]

theorem map_toNat_text (weaves : Weaves labels text answers codes) :
    text.map (fun char => (char.toNat : Int)) = codes.filter fun code => 0 ≤ code ∧ code ≤ 127 := by
  induction weaves with
  | nil => rfl
  | character same ascii further ih =>
      have inside := within_ascii same ascii
      rw [List.filter_cons, if_pos (decide_eq_true inside), List.map_cons, same, ih]
  | answer outside further ih =>
      have excluded := ne_true_of_eq_false (decide_eq_false outside)
      rw [List.filter_cons, if_neg excluded, ih]

theorem answers_eq (weaves : Weaves labels text answers codes) :
    answers = codes.filter fun code => ¬ (0 ≤ code ∧ code ≤ 127) := by
  induction weaves with
  | nil => rfl
  | character same ascii further ih =>
      have inside := within_ascii same ascii
      have excluded := ne_true_of_eq_false (decide_eq_false (not_not_intro inside))
      rw [List.filter_cons, if_neg excluded, ih]
  | answer outside further ih => rw [List.filter_cons, if_pos (decide_eq_true outside), ← ih]

theorem length_add (weaves : Weaves labels text answers codes) :
    text.length + answers.length = codes.length := by
  induction weaves with
  | nil => rfl
  | character same ascii further ih =>
      rw [List.length_cons, List.length_cons, ← ih, Nat.add_right_comm]
  | answer outside further ih => rw [List.length_cons, List.length_cons, ← ih, Nat.add_assoc]

/-- Codes tell what they are woven from. -/
theorem unique (weaves : Weaves labels text answers codes)
    (again : Weaves labels' text' answers' codes) : text' = text ∧ answers' = answers := by
  induction weaves generalizing labels' text' answers' with
  | nil =>
      cases again
      exact ⟨rfl, rfl⟩
  | character same ascii further ih =>
      cases again with
      | character same' ascii' further' =>
          obtain ⟨rfl, rfl⟩ := ih further'
          rw [Char.toNat_inj.1 (Int.ofNat_inj.1 (same'.trans same.symm))]
          exact ⟨rfl, rfl⟩
      | answer outside further' => exact absurd (within_ascii same ascii) outside
  | answer outside further ih =>
      cases again with
      | character same ascii further' => exact absurd (within_ascii same ascii) outside
      | answer outside' further' =>
          obtain ⟨rfl, rfl⟩ := ih further'
          exact ⟨rfl, rfl⟩

end Weaves

/-- The characters of codes and the codes that stand for none make up the codes. -/
theorem exists_weaves (codes : List Int) :
    ∃ labels, Weaves labels (characters codes)
      (codes.filter fun code => (character? code).isNone) codes := by
  induction codes with
  | nil => exact ⟨[], .nil⟩
  | cons code codes ih =>
      obtain ⟨labels, weaves⟩ := ih
      cases found : character? code with
      | none =>
          rw [characters, List.filterMap_cons_none found,
            List.filter_cons_of_pos (by rw [found]; rfl)]
          exact ⟨_, .answer (character?_eq_none_iff.1 found) weaves⟩
      | some char =>
          obtain ⟨same, ascii⟩ := character?_eq_some_iff.1 found
          rw [characters, List.filterMap_cons_some found,
            List.filter_cons_of_neg (by rw [found]; exact Bool.false_ne_true)]
          exact ⟨_, .character same ascii weaves⟩

theorem weaves_text_answers (transcript : Transcript) :
    Weaves (transcript.codes.map fun code => decide (0 ≤ code ∧ code ≤ 127))
      transcript.text.toList transcript.answers transcript.codes := by
  obtain ⟨labels, weaves⟩ := exists_weaves transcript.codes
  rw [← weaves.labels_eq, text, String.toList_ofList]
  exact weaves

/-! ## Transcripts of a session -/

theorem text_append (first second : List Int) (phase phase' phase'' : Phase) :
    text ⟨first ++ second, phase⟩ = text ⟨first, phase'⟩ ++ text ⟨second, phase''⟩ := by
  simp only [text, characters_append, String.ofList_append]

theorem answers_append (first second : List Int) (phase phase' phase'' : Phase) :
    answers ⟨first ++ second, phase⟩ = answers ⟨first, phase'⟩ ++ answers ⟨second, phase''⟩ :=
  List.filter_append first second

theorem text_flatMap (transcripts : List Transcript) (phase : Phase) :
    text ⟨transcripts.flatMap (·.codes), phase⟩ = String.join (transcripts.map (·.text)) := by
  induction transcripts with
  | nil => rfl
  | cons transcript transcripts ih =>
      rw [List.map_cons, String.join_cons, ← ih, List.flatMap_cons]
      exact text_append _ _ _ _ _

theorem answers_flatMap (transcripts : List Transcript) (phase : Phase) :
    answers ⟨transcripts.flatMap (·.codes), phase⟩ = transcripts.flatMap (·.answers) := by
  simp only [answers, List.filter_flatMap]

/-- Text and answers partition a transcript.  Its codes are woven from the two and from nothing
else, with the characters at the positions of the ASCII codes.  Each view of a session is made up of
the views of its parts. -/
theorem text_and_answers_partition :
    (∀ transcript : Transcript,
      (∃ labels, Weaves labels transcript.text.toList transcript.answers transcript.codes ∧
        ∀ (position : Nat) code, transcript.codes[position]? = some code →
          (labels[position]? = some true ↔ 0 ≤ code ∧ code ≤ 127)) ∧
      (∀ labels text answers, Weaves labels text answers transcript.codes →
        text = transcript.text.toList ∧ answers = transcript.answers) ∧
      transcript.text.length + transcript.answers.length = transcript.codes.length) ∧
    (∀ first second phase phase' phase'',
      text ⟨first ++ second, phase⟩ = text ⟨first, phase'⟩ ++ text ⟨second, phase''⟩ ∧
        answers ⟨first ++ second, phase⟩ = answers ⟨first, phase'⟩ ++ answers ⟨second, phase''⟩) ∧
    ∀ (transcripts : List Transcript) phase,
      text ⟨transcripts.flatMap (·.codes), phase⟩ = String.join (transcripts.map (·.text)) ∧
        answers ⟨transcripts.flatMap (·.codes), phase⟩ = transcripts.flatMap (·.answers) := by
  refine ⟨fun transcript => ?_, ?_, ?_⟩
  · have weaves := weaves_text_answers transcript
    refine ⟨⟨_, weaves, ?_⟩, fun labels text answers again => weaves.unique again, ?_⟩
    · intro position code found
      rw [List.getElem?_map, found, Option.map_some, Option.some_inj, decide_eq_true_iff]
    · rw [← String.length_toList]
      exact weaves.length_add
  · intro first second phase phase' phase''
    exact ⟨text_append _ _ _ _ _, answers_append _ _ _ _ _⟩
  · intro transcripts phase
    exact ⟨text_flatMap transcripts phase, answers_flatMap transcripts phase⟩

theorem text_and_answers_of_mixed_codes :
    Weaves [true, false, true, false, true, false] ['K', '\n', '\x7f'] [19349722, -1, 128]
        [75, 19349722, 10, -1, 127, 128] ∧
      ['K', '\n', '\x7f'] = (text ⟨[75, 19349722, 10, -1, 127, 128], .halted⟩).toList ∧
      [19349722, -1, 128] = answers ⟨[75, 19349722, 10, -1, 127, 128], .halted⟩ := by
  have weaves :
      Weaves [true, false, true, false, true, false] ['K', '\n', '\x7f'] [19349722, -1, 128]
        [75, 19349722, 10, -1, 127, 128] :=
    .character rfl (by decide) <| .answer (by decide) <| .character rfl (by decide) <|
      .answer (by decide) <| .character rfl (by decide) <| .answer (by decide) .nil
  exact ⟨weaves, (text_and_answers_partition.1 ⟨_, .halted⟩).2.1 _ _ _ weaves⟩

end Transcript

end Intcode
