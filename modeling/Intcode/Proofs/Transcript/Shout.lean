import Intcode.Proofs.Machine.Chunks
import Intcode.Proofs.Machine.Stepping
import Intcode.Proofs.Transcript.Lines

/-!
# The shouting program

A program that reads a line and says it again in capitals, with an exclamation mark behind it, goes
once round its loop for each character and leaves it at the line feed.  It keeps its character in a
cell far behind its code, beside the results of its two tests.  So a line of any length comes back,
whether the program was already waiting for it or not.
-/

namespace Intcode

/-- The code that is said again for a code: from the small letters on, the one 32 below. -/
def capital (code : Int) : Int :=
  if code < 97 then code else code - 32

def capitalChar (char : Char) : Char :=
  if char.toNat < 97 then char else Char.ofNat (char.toNat - 32)

theorem toNat_capitalChar {char : Char} (ascii : char.toNat ≤ 127) :
    ((capitalChar char).toNat : Int) = capital char.toNat ∧ (capitalChar char).toNat ≤ 127 := by
  unfold capitalChar capital
  by_cases small : char.toNat < 97
  · rw [if_pos small, if_pos (by omega)]
    exact ⟨rfl, ascii⟩
  · rw [if_neg small, if_neg (by omega), Transcript.toNat_ofNat_of_ascii (by omega)]
    omega

namespace Machine

/-! ## The loop -/

/-- The code of the program.  It takes a character to cell 100, leaves the loop if it is a line
feed, says it or the one 32 below, and starts again; behind the loop it says an exclamation mark and
a line feed, and halts. -/
def shoutCode : List Int :=
  [3, 100, 1008, 100, 10, 101, 1005, 101, 26, 1007, 100, 97, 102, 1005, 102, 20,
    1001, 100, -32, 100, 4, 100, 1105, 1, 0, 0, 104, 33, 104, 10, 99]

def shoutText : String :=
  "3,100,1008,100,10,101,1005,101,26,1007,100,97,102,1005,102,20," ++
    "1001,100,-32,100,4,100,1105,1,0,0,104,33,104,10,99"

def characterCell : Address :=
  ⟨100, by decide⟩

structure Shouts (machine : Machine) (position : Nat) (character : Int) : Prop where
  follows : machine.Follows shoutCode position
  holds : machine.memory.read characterCell = character

section Loop

variable {machine : Machine} {character : Int}

/-- Both tests compare the character with a bound and jump if the comparison holds. -/
theorem Shouts.test {position : Nat} (shouts : machine.Shouts position character)
    (combiner : Combiner) (bound : Int) (cell goal : Address)
    (compares : shoutCode[position]? =
      some ((Instruction.combine combiner .position .immediate .position).encode : Int))
    (left : shoutCode[position + 1]? = some (characterCell.toNat : Int))
    (right : shoutCode[position + 2]? = some bound)
    (stores : shoutCode[position + 3]? = some (cell.toNat : Int))
    (behind : characterCell.toNat < cell.toNat)
    (jumps : shoutCode[position + 4]? =
      some ((Instruction.jump .nonzero .position .immediate).encode : Int))
    (tests : shoutCode[position + 5]? = some (cell.toNat : Int))
    (leads : shoutCode[position + 6]? = some (goal.toNat : Int)) :
    ∃ next, machine.progress 2 = .running next ∧ next.channel = machine.channel ∧
      next.Shouts (if combiner.apply character bound ≠ 0 then goal.toNat else position + 7)
        character := by
  have code : shoutCode.length ≤ cell.toNat := Nat.le_trans (by decide) (Nat.le_of_lt behind)
  obtain ⟨middle, compared, further, memory, channel⟩ :=
    shouts.follows.combine combiner .position .immediate cell compares
      (shouts.follows.stored characterCell left) (shouts.follows.immediate right) stores code
  have apart : characterCell ≠ cell := by
    rintro rfl
    exact Nat.lt_irrefl _ behind
  have result : middle.memory.read cell = combiner.apply character bound := by
    rw [memory, Memory.read_write, if_pos rfl, shouts.holds]
  have kept : middle.memory.read characterCell = character := by
    rw [memory, Memory.read_write, if_neg apart, shouts.holds]
  obtain ⟨last, -⟩ := List.getElem?_eq_some_iff.1 leads
  obtain ⟨next, jumped, reached, memory', channel'⟩ :=
    further.jump .nonzero .position .immediate goal jumps (further.stored cell tests)
      (further.immediate leads) last (by decide)
  rw [result] at reached
  refine ⟨next, ?_, channel'.trans channel, ?_, by rw [memory', kept]⟩
  · rw [progress_of_turn_running compared, progress_of_turn_running jumped]
    rfl
  · simpa [Condition.holds] using reached

/-- The program starts with taking a character. -/
theorem shouts_of_pending {rest : List Int} (follows : machine.Follows shoutCode 0)
    (pending : machine.channel.input = character :: rest) :
    ∃ next, machine.progress 1 = .running next ∧ next.Shouts 2 character ∧
      Channel.Exchange [character] [] machine.channel next.channel := by
  obtain ⟨next, turned, further, memory, exchange⟩ :=
    follows.input characterCell rfl rfl (by decide) pending
  refine ⟨next, progress_of_turn_running turned 0, ⟨further, ?_⟩, exchange⟩
  rw [memory, Memory.read_write, if_pos rfl]

/-- A line feed leads out of the loop. -/
theorem Shouts.leave (shouts : machine.Shouts 2 character) :
    ∃ next, machine.progress 2 = .running next ∧ next.channel = machine.channel ∧
      next.Shouts (if character = 10 then 26 else 9) character := by
  have tested := shouts.test .equals 10 ⟨101, by decide⟩ ⟨26, by decide⟩ rfl rfl rfl rfl
    (by decide) rfl rfl rfl
  simpa [Combiner.apply] using tested

/-- From the small letters on, the character is moved 32 down. -/
theorem Shouts.raise (shouts : machine.Shouts 9 character) :
    ∃ used next, machine.progress used = .running next ∧ used ≤ 3 ∧
      next.channel = machine.channel ∧ next.Shouts 20 (capital character) := by
  obtain ⟨middle, tested, channel, shouts'⟩ :=
    shouts.test .lessThan 97 ⟨102, by decide⟩ ⟨20, by decide⟩ rfl rfl rfl rfl (by decide) rfl rfl
      rfl
  by_cases small : character < 97
  · refine ⟨2, middle, tested, by decide, channel, ?_⟩
    simpa [Combiner.apply, capital, small] using shouts'
  · have lower : middle.Shouts 16 character := by
      simpa [Combiner.apply, small] using shouts'
    obtain ⟨next, turned, further, memory, channel'⟩ :=
      lower.follows.combine .add .position .immediate characterCell rfl
        (lower.follows.stored characterCell rfl) (lower.follows.immediate rfl) rfl (by decide)
    refine ⟨3, next, ?_, by decide, channel'.trans channel, further, ?_⟩
    · rw [progress_of_progress_running tested 1]
      exact progress_of_turn_running turned 0
    · rw [memory, Memory.read_write, if_pos rfl, lower.holds, capital, if_neg small]
      rfl

/-- The character is said, and the loop starts again. -/
theorem Shouts.say (shouts : machine.Shouts 20 character) :
    ∃ next, machine.progress 2 = .running next ∧ next.Follows shoutCode 0 ∧
      Channel.Exchange [] [character] machine.channel next.channel := by
  have read : machine.operand 0 .position = .ok character := by
    rw [shouts.follows.stored characterCell rfl, shouts.holds]
  obtain ⟨middle, told, further, -, exchange⟩ :=
    shouts.follows.output .position rfl read (by decide) (by decide)
  obtain ⟨next, jumped, again, -, channel⟩ :=
    further.jump .nonzero .immediate .immediate .zero rfl (further.immediate rfl)
      (further.immediate rfl) (by decide) (by decide)
  refine ⟨next, ?_, again, ?_⟩
  · rw [progress_of_turn_running told, progress_of_turn_running jumped]
    rfl
  · rw [channel]
    exact exchange

/-- One round takes a character and says it again. -/
theorem Follows.round {rest : List Int} (follows : machine.Follows shoutCode 0)
    (pending : machine.channel.input = character :: rest) (within : character ≠ 10) :
    ∃ used next, machine.progress used = .running next ∧ used ≤ 8 ∧
      next.Follows shoutCode 0 ∧
      Channel.Exchange [character] [capital character] machine.channel next.channel := by
  obtain ⟨taken, first, shouts, takes⟩ := shouts_of_pending follows pending
  obtain ⟨stayed, second, same, shouts⟩ := shouts.leave
  rw [if_neg within] at shouts
  obtain ⟨used, raised, third, few, same', shouts⟩ := shouts.raise
  obtain ⟨next, fourth, again, tells⟩ := shouts.say
  rw [same', same] at tells
  refine ⟨1 + (2 + (used + 2)), next, ?_, by omega, again, takes.trans tells⟩
  rw [progress_of_progress_running first, progress_of_progress_running second,
    progress_of_progress_running third, fourth]

/-- At the line feed the program says its last two characters and halts. -/
theorem Follows.finish {rest : List Int} (follows : machine.Follows shoutCode 0)
    (pending : machine.channel.input = 10 :: rest) :
    ∃ last, machine.progress 6 = .stopped (.ok .halted) last ∧
      Channel.Exchange [10] [33, 10] machine.channel last.channel := by
  obtain ⟨taken, first, shouts, takes⟩ := shouts_of_pending follows pending
  obtain ⟨left, second, same, shouts⟩ := shouts.leave
  obtain ⟨marked, told, further, -, marks⟩ :=
    shouts.follows.output .immediate rfl (shouts.follows.immediate rfl) (by decide) (by decide)
  obtain ⟨ended, told', further', -, ends⟩ :=
    further.output .immediate rfl (further.immediate rfl) (by decide) (by decide)
  have halts : ended.turn = .stopped (.ok .halted) { ended with phase := .halted } :=
    turn_of_halt further'.started (further'.fetch rfl)
  rw [same] at marks
  refine ⟨{ ended with phase := .halted }, ?_, (takes.trans marks).trans ends⟩
  rw [progress_of_progress_running first 5, progress_of_progress_running second 3,
    progress_of_turn_running told, progress_of_turn_running told',
    progress_of_turn_stopped halts]

/-- A line that is in the input is said again as a whole. -/
theorem Follows.shout {line : List Int} (follows : machine.Follows shoutCode 0)
    (pending : machine.channel.input = line ++ [10]) (within : 10 ∉ line) :
    ∃ used last, machine.progress used = .stopped (.ok .halted) last ∧
      used ≤ 8 * line.length + 6 ∧
      Channel.Exchange (line ++ [10]) (line.map capital ++ [33, 10]) machine.channel
        last.channel := by
  induction line generalizing machine with
  | nil =>
      obtain ⟨last, stopped, exchange⟩ := follows.finish pending
      exact ⟨6, last, stopped, Nat.le_refl _, exchange⟩
  | cons character rest ih =>
      rw [List.mem_cons, not_or] at within
      obtain ⟨used, next, goes, few, again, exchange⟩ :=
        follows.round pending (Ne.symm within.1)
      have left : next.channel.input = rest ++ [10] := exchange.input_eq pending
      obtain ⟨further, last, stopped, bounded, exchange'⟩ := ih again left within.2
      refine ⟨used + further, last, ?_, ?_, exchange.trans exchange'⟩
      · rw [progress_of_progress_running goes, stopped]
      · rw [List.length_cons]
        omega

end Loop

/-! ## Lines -/

/-- A machine that stands at the start of the program, with a line in its input, says the line. -/
theorem run_of_line (machine : Machine) {line : List Int} {limit : Nat}
    (live : machine.phase.isStopped = false) (holds : machine.memory.Holds shoutCode)
    (start : machine.ip = .zero) (pending : machine.channel.input = line ++ [10])
    (within : 10 ∉ line) (enough : 8 * line.length + 6 ≤ limit) :
    ∃ last, machine.run limit = some (.ok .halted, last) ∧ last.channel.input = [] ∧
      last.channel.output.toList =
        machine.channel.output.toList ++ (line.map capital ++ [33, 10]) := by
  have follows : machine.resume.Follows shoutCode 0 := ⟨holds, congrArg Address.toNat start, rfl⟩
  obtain ⟨used, last, stopped, bounded, exchange⟩ := follows.shout pending within
  have ran : machine.run used = some (.ok .halted, last) := run_of_progress_stopped live stopped
  have whole : machine.channel.input = (line ++ [10]) ++ [] := by rw [pending, List.append_nil]
  exact ⟨last, run_mono ran (Nat.le_trans bounded enough), exchange.input_eq whole,
    exchange.output⟩

/-- A machine with the program just loaded, whether it has waited for its line since or not. -/
structure AwaitsLine (machine : Machine) : Prop where
  holds : machine.memory.Holds shoutCode
  start : machine.ip = .zero
  live : machine.phase.isStopped = false
  input : machine.channel.input = []
  output : machine.channel.output = #[]

theorem AwaitsLine.runText {machine : Machine} (awaits : machine.AwaitsLine) {line : String}
    (within : '\n' ∉ line.toList) {limit : Nat} (enough : 8 * line.length + 6 ≤ limit) :
    (machine.sendLine line).1 = .ok () ∧
      ∃ after,
        (machine.sendLine line).2.runText limit =
            some (.ok ⟨line.toList.map (fun char => capital char.toNat) ++ [33, 10], .halted⟩,
              after) ∧
          after.pending = 0 := by
  let sent : Machine := { machine with channel := machine.channel.enqueueAll (lineCodes line) }
  have sends : machine.sendLine line = (.ok (), sent) :=
    sendLine_of_not_faulted (ne_faulted_of_live awaits.live) line
  have pending : sent.channel.input =
      line.toList.map (fun char => (char.toNat : Int)) ++ [10] := by
    change machine.channel.input ++ lineCodes line = _
    rw [awaits.input]
    rfl
  rw [← String.length_toList, ← List.length_map (fun char : Char => (char.toNat : Int))] at enough
  obtain ⟨last, ran, empty, output⟩ :=
    run_of_line sent awaits.live awaits.holds awaits.start pending (lineFeed_not_mem_codes within)
      enough
  have codes : last.channel.output.toList =
      line.toList.map (fun char => capital char.toNat) ++ [33, 10] := by
    rw [output, List.map_map]
    change machine.channel.output.toList ++ _ = _
    rw [awaits.output]
    rfl
  rw [sends]
  refine ⟨rfl, last.drain.2, ?_, ?_⟩
  · rw [Machine.runText, ran, ← codes]
    rfl
  · exact congrArg List.length empty

/-- A machine that awaits its line and is run waits for the line, and has put nothing out. -/
theorem AwaitsLine.waits {machine : Machine} (awaits : machine.AwaitsLine) {limit : Nat}
    (enough : 0 < limit) :
    machine.runText limit = some (.ok ⟨[], .blocked⟩, { machine with phase := .blocked }) ∧
      ({ machine with phase := .blocked } : Machine).AwaitsLine := by
  have follows : machine.resume.Follows shoutCode 0 :=
    ⟨awaits.holds, congrArg Address.toNat awaits.start, rfl⟩
  have fetched : machine.resume.fetch = .ok (.input .position) := follows.fetch rfl
  have waits : machine.resume.turn = .stopped (.ok .blocked) { machine with phase := .blocked } :=
    turn_of_empty rfl fetched awaits.input
  have once : machine.run 1 = some (.ok .blocked, { machine with phase := .blocked }) :=
    run_of_progress_stopped awaits.live (progress_of_turn_stopped waits 0)
  have drained : ({ machine with phase := .blocked } : Machine).drain =
      ([], { machine with phase := .blocked }) := by
    have same : { machine.channel with output := #[] } = machine.channel := by
      rw [← awaits.output]
    rw [drain, Channel.drain, same, awaits.output]
  refine ⟨?_, awaits.holds, awaits.start, rfl, awaits.input, awaits.output⟩
  rw [Machine.runText, run_mono once enough]
  simp only [Option.map_some, drained]

theorem awaitsLine_start (machine : Machine) : (machine.start ⟨shoutCode⟩).AwaitsLine where
  holds := by
    have whole : (Memory.ofList (shoutCode ++ [])).Holds shoutCode :=
      Memory.holds_ofList (by decide) []
    rw [List.append_nil] at whole
    exact whole
  start := rfl
  live := rfl
  input := rfl
  output := rfl

theorem load_shout (machine : Machine) :
    machine.load shoutText = (.ok (), machine.start ⟨shoutCode⟩) := by
  have parsed : Program.parse shoutText = .ok ⟨shoutCode⟩ := by
    decide +kernel
  rw [load, parsed]

end Machine

/-- What is said again of a line of ASCII characters is text, and no answer. -/
theorem Transcript.weaves_capitals {chars : List Char} (ascii : ∀ char ∈ chars, char.toNat ≤ 127) :
    ∃ labels, Weaves labels (chars.map capitalChar ++ ['!', '\n']) []
      (chars.map (fun char => capital char.toNat) ++ [33, 10]) := by
  induction chars with
  | nil => exact ⟨_, .character rfl (by decide) (.character rfl (by decide) .nil)⟩
  | cons char chars ih =>
      obtain ⟨labels, weaves⟩ := ih fun other later => ascii other (List.mem_cons_of_mem _ later)
      obtain ⟨same, small⟩ := toNat_capitalChar (ascii char List.mem_cons_self)
      have small' : capital char.toNat ≤ 127 := by omega
      exact ⟨_, .character same small' weaves⟩

namespace Machine

/-- A line comes back in capitals.  Load the program, and send it a line, at once or after it has
been run and waits, with nothing put out.  However long the line is, a run then halts with all of it
taken; the transcript has a code for each character and two more.  Where the line is made of ASCII
characters, they are its text, and there are no answers. -/
theorem line_comes_back_in_capitals (machine : Machine) :
    ∃ loaded waiting,
      machine.load shoutText = (.ok (), loaded) ∧
      (∀ limit, 0 < limit → loaded.runText limit = some (.ok ⟨[], .blocked⟩, waiting)) ∧
      ∀ line : String, '\n' ∉ line.toList →
        ∃ transcript : Transcript, transcript.phase = .halted ∧
          transcript.codes = line.toList.map (fun char => capital char.toNat) ++ [33, 10] ∧
          ((∀ char ∈ line.toList, char.toNat ≤ 127) →
            transcript.text = String.ofList (line.toList.map capitalChar) ++ "!\n" ∧
              transcript.answers = []) ∧
          ∀ start, start = loaded ∨ start = waiting → ∀ limit, 8 * line.length + 6 ≤ limit →
            (start.sendLine line).1 = .ok () ∧
              ∃ after, (start.sendLine line).2.runText limit = some (.ok transcript, after) ∧
                after.pending = 0 := by
  have awaits := awaitsLine_start machine
  refine ⟨machine.start ⟨shoutCode⟩, { machine.start ⟨shoutCode⟩ with phase := .blocked },
    load_shout machine, fun limit enough => (awaits.waits enough).1, fun line within => ?_⟩
  let transcript : Transcript :=
    ⟨line.toList.map (fun char => capital char.toNat) ++ [33, 10], .halted⟩
  refine ⟨transcript, rfl, rfl, fun ascii => ?_, fun start stands limit enough => ?_⟩
  · obtain ⟨labels, weaves⟩ := Transcript.weaves_capitals ascii
    obtain ⟨text, answers⟩ := weaves.unique (Transcript.weaves_text_answers transcript)
    refine ⟨?_, answers⟩
    rw [← String.ofList_toList (s := transcript.text), text, String.ofList_append]
  · rcases stands with rfl | rfl
    · exact awaits.runText within enough
    · exact (awaits.waits Nat.one_pos).2.runText within enough

/-- The program waits for its line, and then says it. -/
theorem line_comes_back_in_capitals_beep :
    '\n' ∉ "beep".toList ∧
      ∃ loaded waiting after, ∃ transcript : Transcript,
        empty.load shoutText = (.ok (), loaded) ∧
        loaded.runText 1 = some (.ok ⟨[], .blocked⟩, waiting) ∧
        (waiting.sendLine "beep").2.runText 38 = some (.ok transcript, after) ∧
        transcript.codes = [66, 69, 69, 80, 33, 10] ∧ transcript.text = "BEEP!\n" ∧
        transcript.answers = [] ∧ after.pending = 0 := by
  obtain ⟨loaded, waiting, loads, waits, answered⟩ := line_comes_back_in_capitals empty
  have within : '\n' ∉ "beep".toList := by decide
  obtain ⟨transcript, -, codes, shown, runs⟩ := answered "beep" within
  have ascii : "beep".toList.all fun char => char.toNat ≤ 127 := by decide
  obtain ⟨text, answers⟩ := shown fun char listed =>
    of_decide_eq_true (List.all_eq_true.1 ascii char listed)
  obtain ⟨-, after, ran, empty⟩ := runs waiting (.inr rfl) 38 (by decide)
  exact ⟨within, loaded, waiting, after, transcript, loads, waits 1 (by decide), ran, codes, text,
    answers, empty⟩

end Machine

end Intcode
