import Intcode.Proofs.Text.Segments
import Intcode.Proofs.Transcript.Weaving

/-!
# Lines and their codes

A line is sent as its code points and a line feed.  A machine takes all of them or, when it has
faulted, none.  What it was sent can be told from its input as long as no line has a line feed in
it: the line feeds cut the input into the lines.
-/

namespace Intcode

/-! ## Codes of a line -/

/-- The line that a segment of the input spells, with the line feed at its end left out. -/
def spelled (segment : List Int) : String :=
  String.ofList (segment.dropLast.map fun code => Char.ofNat code.toNat)

theorem spelled_lineCodes (line : String) : spelled (lineCodes line) = line := by
  have back : (fun code : Int => Char.ofNat code.toNat) ∘ (fun char : Char => (char.toNat : Int)) =
      id := by
    funext char
    exact Char.ofNat_toNat char
  rw [spelled, lineCodes, List.dropLast_concat, List.map_map, back, List.map_id,
    String.ofList_toList]

/-- A text with a line feed in it reads as two lines. -/
theorem lineCodes_append (first second : String) :
    lineCodes (first ++ "\n" ++ second) = lineCodes first ++ lineCodes second := by
  have lineFeed : ("\n".toList).map (fun char => (char.toNat : Int)) = [10] := rfl
  rw [lineCodes, String.toList_append, String.toList_append, List.map_append, List.map_append,
    lineFeed, List.append_assoc]
  rfl

/-- The codes of characters have a line feed in them only if the characters do. -/
theorem lineFeed_not_mem_codes {chars : List Char} (plain : '\n' ∉ chars) :
    10 ∉ chars.map fun char => (char.toNat : Int) := by
  intro listed
  obtain ⟨char, inLine, same⟩ := List.mem_map.1 listed
  have lineFeed : char = '\n' := Char.toNat_inj.1 (Int.ofNat_inj.1 same)
  rw [lineFeed] at inLine
  exact plain inLine

/-- The line feeds cut the codes of lines into the codes of each, if no line has one in it. -/
theorem cuts_lineCodes {lines : List String} (plain : ∀ line ∈ lines, '\n' ∉ line.toList) :
    Cuts 10 (lines.flatMap lineCodes) (lines.map lineCodes) := by
  induction lines with
  | nil => exact .nil
  | cons line lines ih =>
      rw [List.flatMap_cons, lineCodes, List.append_assoc]
      exact .cons (lineFeed_not_mem_codes (plain line List.mem_cons_self))
        (ih fun line later => plain line (List.mem_cons_of_mem _ later))

namespace Transcript

/-- The codes of a line are woven from its ASCII characters, with the line feed behind them, and the
code points of the others. -/
theorem weaves_line (chars : List Char) :
    ∃ labels, Weaves labels (chars.filter (·.toNat ≤ 127) ++ ['\n'])
      ((chars.filter (¬ ·.toNat ≤ 127)).map fun char => (char.toNat : Int))
      (chars.map (fun char => (char.toNat : Int)) ++ [10]) := by
  induction chars with
  | nil => exact ⟨_, .character rfl (by decide) .nil⟩
  | cons char chars ih =>
      obtain ⟨labels, weaves⟩ := ih
      by_cases ascii : char.toNat ≤ 127
      · rw [List.filter_cons_of_pos (by simpa using ascii),
          List.filter_cons_of_neg (by simpa using ascii)]
        exact ⟨_, .character rfl (Int.ofNat_le.2 ascii) weaves⟩
      · rw [List.filter_cons_of_neg (by simpa using ascii),
          List.filter_cons_of_pos (by simpa using ascii)]
        exact ⟨_, .answer (fun within => ascii (Int.ofNat_le.1 within.2)) weaves⟩

end Transcript

namespace Machine

/-! ## Sending lines -/

def sendLines (machine : Machine) (lines : List String) : Machine :=
  lines.foldl (fun machine line => (machine.sendLine line).2) machine

theorem sendLine_of_faulted {machine : Machine} (faulted : machine.phase = .faulted)
    (line : String) :
    machine.sendLine line = (.error (.invalidTransition .faulted .enqueueInput), machine) := by
  rw [sendLine_eq, enqueueAll_of_faulted faulted]

theorem sendLine_of_not_faulted {machine : Machine} (sound : machine.phase ≠ .faulted)
    (line : String) :
    machine.sendLine line =
      (.ok (), { machine with channel := machine.channel.enqueueAll (lineCodes line) }) := by
  rw [sendLine_eq, enqueueAll_of_not_faulted sound]

theorem sendLines_of_not_faulted {machine : Machine} (sound : machine.phase ≠ .faulted)
    (lines : List String) :
    machine.sendLines lines =
      { machine with channel := machine.channel.enqueueAll (lines.flatMap lineCodes) } := by
  induction lines generalizing machine with
  | nil => rw [List.flatMap_nil, Channel.enqueueAll_nil, sendLines, List.foldl_nil]
  | cons line lines ih =>
      have sound' : ({ machine with
          channel := machine.channel.enqueueAll (lineCodes line) } : Machine).phase ≠ .faulted :=
        sound
      have rest := ih sound'
      rw [sendLines] at rest
      rw [sendLines, List.foldl_cons, sendLine_of_not_faulted sound, rest,
        Channel.enqueueAll_enqueueAll, List.flatMap_cons]

/-- Whether a machine takes a line does not depend on the line. -/
theorem sendLine_fst (machine : Machine) (first second : String) :
    (machine.sendLine first).1 = (machine.sendLine second).1 := by
  by_cases faulted : machine.phase = .faulted
  · rw [sendLine_of_faulted faulted, sendLine_of_faulted faulted]
  · rw [sendLine_of_not_faulted faulted, sendLine_of_not_faulted faulted]

/-- A text with a line feed in it is sent as two lines are. -/
theorem sendLine_append (machine : Machine) (first second : String) :
    machine.sendLine (first ++ "\n" ++ second) = (machine.sendLine first).2.sendLine second := by
  by_cases faulted : machine.phase = .faulted
  · rw [sendLine_of_faulted faulted, sendLine_of_faulted faulted, sendLine_of_faulted faulted]
  · have faulted' : ({ machine with
        channel := machine.channel.enqueueAll (lineCodes first) } : Machine).phase ≠ .faulted :=
      faulted
    rw [sendLine_of_not_faulted faulted, sendLine_of_not_faulted faulted,
      sendLine_of_not_faulted faulted', Channel.enqueueAll_enqueueAll, lineCodes_append]

/-- Lines are sent faithfully.  A machine takes the code points of a line and a line feed, and
nothing else of it changes; a faulted one takes nothing.  A line feed in a line makes it two lines,
and lines without can be read off the input.  Where a transcript has the codes of a line, its text
is made of the ASCII characters, and the other characters are answers. -/
theorem lines_are_sent_faithfully :
    (∀ (machine : Machine) line, machine.phase ≠ .faulted →
      machine.sendLine line =
        (.ok (), { machine with
          channel := { machine.channel with
            input := machine.channel.input ++
              (line.toList.map (fun char => (char.toNat : Int)) ++ [10]) } })) ∧
    (∀ (machine : Machine) line, machine.phase = .faulted →
      machine.sendLine line = (.error (.invalidTransition .faulted .enqueueInput), machine)) ∧
    (∀ (machine : Machine) first second,
      machine.sendLine (first ++ "\n" ++ second) = (machine.sendLine first).2.sendLine second ∧
        (machine.sendLine (first ++ "\n" ++ second)).1 = (machine.sendLine first).1) ∧
    (∀ (machine : Machine) lines, machine.phase ≠ .faulted → machine.channel.input = [] →
      (∀ line ∈ lines, '\n' ∉ line.toList) →
        ∃ segments, Cuts 10 (machine.sendLines lines).channel.input segments ∧
          (∀ others, Cuts 10 (machine.sendLines lines).channel.input others → others = segments) ∧
          segments.map spelled = lines) ∧
    ∀ line (transcript : Transcript), transcript.codes = lineCodes line →
      transcript.text = String.ofList (line.toList.filter (·.toNat ≤ 127)) ++ "\n" ∧
        transcript.answers =
          (line.toList.filter (¬ ·.toNat ≤ 127)).map fun char => (char.toNat : Int) := by
  refine ⟨?_, ?_, ?_, ?_, ?_⟩
  · intro machine line sound
    exact sendLine_of_not_faulted sound line
  · intro machine line faulted
    exact sendLine_of_faulted faulted line
  · intro machine first second
    exact ⟨sendLine_append machine first second, sendLine_fst machine _ _⟩
  · intro machine lines sound empty plain
    have queued : (machine.sendLines lines).channel.input = lines.flatMap lineCodes := by
      rw [sendLines_of_not_faulted sound, Channel.enqueueAll, empty, List.nil_append]
    rw [queued]
    have cuts := cuts_lineCodes plain
    refine ⟨_, cuts, fun others again => cuts.unique again, ?_⟩
    rw [List.map_map]
    exact List.map_id'' spelled_lineCodes lines
  · intro line transcript codes
    obtain ⟨labels, weaves⟩ := Transcript.weaves_line line.toList
    have shown := Transcript.weaves_text_answers transcript
    rw [codes] at shown
    obtain ⟨text, answers⟩ := weaves.unique shown
    refine ⟨?_, answers⟩
    rw [← String.ofList_toList (s := transcript.text), text, String.ofList_append]

theorem lines_are_sent_faithfully_accented :
    (empty.sendLine "hé").1 = .ok () ∧
      ({ empty with phase := .faulted }.sendLine "hé").1 =
        .error (.invalidTransition .faulted .enqueueInput) ∧
      (∃ segments, Cuts 10 (empty.sendLines ["hé", ""]).channel.input segments ∧
        segments.map spelled = ["hé", ""]) ∧
      Transcript.text ⟨lineCodes "hé", .blocked⟩ = "h\n" ∧
      Transcript.answers ⟨lineCodes "hé", .blocked⟩ = [233] := by
  obtain ⟨accepts, refuses, -, reads, shows⟩ := lines_are_sent_faithfully
  obtain ⟨segments, cuts, -, spells⟩ := reads empty ["hé", ""] nofun rfl (by decide)
  obtain ⟨text, answers⟩ := shows "hé" ⟨lineCodes "hé", .blocked⟩ rfl
  have accepted := accepts empty "hé" nofun
  have refused := refuses { empty with phase := .faulted } "hé" rfl
  refine ⟨?_, ?_, ⟨segments, cuts, spells⟩, text, answers⟩
  · rw [accepted]
  · rw [refused]

end Machine

end Intcode
