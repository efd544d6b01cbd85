import Intcode.Proofs.Conversation.Dialogue
import Intcode.Proofs.History.Accounts

/-!
# What a conversation shows

A conversation shows the transcripts of its runs in order, and asks for a line only when the last
of them was shown and the program waits.  When a call of the console fails, the conversation ends
with that failure: it showed what a conversation without failure shows first, and leaves the machine
as its latest run left it.
-/

namespace Intcode

namespace Transcript

/-- Texts display a transcript when they are its text, without one prompt if it ends with that, and
then its answers in order, each on a line. -/
def DisplayedBy (transcript : Transcript) (prompt : String) (texts : List String) : Prop :=
  ∃ first, texts = first :: transcript.answers.map (fun value => Decimal.text value ++ "\n") ∧
    (transcript.text = first ++ prompt ∨
      first = transcript.text ∧ ∀ front, transcript.text ≠ front ++ prompt)

theorem displayedBy_display (transcript : Transcript) (prompt : String) :
    transcript.DisplayedBy prompt (transcript.display prompt) := by
  refine ⟨_, rfl, ?_⟩
  by_cases ends : ∃ front, characters transcript.codes = front ++ prompt.toList
  · obtain ⟨front, same⟩ := ends
    refine .inl ?_
    rw [text, same, withoutPrompt_append, String.ofList_append, String.ofList_toList]
  · have differs := not_exists.1 ends
    rw [withoutPrompt_of_ne differs]
    refine .inr ⟨rfl, fun front same => differs front.toList ?_⟩
    rw [← String.toList_append, ← same, text, String.toList_ofList]

end Transcript

/-! ## Texts that come first -/

def Console.TookFirst {σ : Type} (stands : List String → List String → σ → Prop)
    (texts : List String) (state : σ) : Prop :=
  ∃ left later, stands left (texts ++ later) state

theorem Console.TookFirst.of_stands
    {σ : Type} {stands : List String → List String → σ → Prop} {lines texts : List String}
    {state : σ} (standing : stands lines texts state) : Console.TookFirst stands texts state := by
  refine ⟨lines, [], ?_⟩
  rw [List.append_nil]
  exact standing

theorem Console.TookFirst.of_append
    {σ : Type} {stands : List String → List String → σ → Prop} {first second : List String}
    {state : σ} (took : Console.TookFirst stands (first ++ second) state) :
    Console.TookFirst stands first state := by
  obtain ⟨left, later, standing⟩ := took
  rw [List.append_assoc] at standing
  exact ⟨left, _, standing⟩

namespace Machine

open Console.Call (texts shown lines errors)

/-! ## What was shown and asked for -/

structure Shows (prompt : String) (transcripts : List Transcript) (calls : List Console.Call) :
    Prop where
  displayed : ∀ transcript ∈ transcripts,
    transcript.DisplayedBy prompt (transcript.display prompt)
  /-- The console is given what displays the transcripts, in order. -/
  inOrder : texts calls <+: transcripts.flatMap (·.display prompt)
  /-- It is given all of it unless it refuses a text. -/
  whole : (∀ text error, .write text (.error error) ∉ calls) →
    texts calls = transcripts.flatMap (·.display prompt)
  /-- What it took is what it was given, up to a text that it refused. -/
  taken : shown calls <+: texts calls
  /-- No call follows one that failed. -/
  last : calls.Pairwise fun earlier _ => earlier.error? = none
  /-- A line is asked for when all transcripts so far were shown, and the last of them waits. -/
  asked : ∀ before result further, calls = before ++ .readLine result :: further →
    ∃ earlier transcript later, transcripts = earlier ++ transcript :: later ∧
      transcript.phase = .blocked ∧ earlier.length = (lines before).length ∧
      shown before = (earlier ++ [transcript]).flatMap (·.display prompt)

/-! ## How it ended -/

/-- A machine is left as a run of another left it.  With a fault its output is still there; without
one it was taken, whether the console failed then or not. -/
def LeftBy (limit : Nat) (latest after : Machine) : Except Interruption Phase → Prop
  | .error (.machine fault) =>
      latest.runText limit = some (.error fault, after) ∧
        after.channel.output.toList =
          latest.channel.output.toList ++ Channel.Event.valuesEmitted (latest.runEvents limit)
  | .error (.console _) =>
      ∃ transcript, latest.runText limit = some (.ok transcript, after) ∧
        after.channel.output = #[]
  | .ok phase =>
      ∃ transcript, latest.runText limit = some (.ok transcript, after) ∧
        transcript.phase = phase ∧ after.channel.output = #[]

structure Ends (limit rounds : Nat) (starts : List Machine) (transcripts : List Transcript)
    (calls : List Console.Call) (answer : Option (Except Interruption Phase × Machine)) :
    Prop where
  /-- A failure of the console is the answer. -/
  console : ∀ error, error ∈ errors calls ↔ ∃ after, answer = some (.error (.console error), after)
  /-- A fault of a run is the answer. -/
  machine : ∀ fault after, (∃ start ∈ starts, start.runText limit = some (.error fault, after)) ↔
    answer = some (.error (.machine fault), after)
  /-- Without a failure the program halted just if a run did. -/
  halted : errors calls = [] →
    ((∃ after, answer = some (.ok .halted, after)) ↔ ∃ transcript ∈ transcripts,
      transcript.phase = .halted)
  /-- The program waits just if the console had no more lines. -/
  blocked : (∃ after, answer = some (.ok .blocked, after)) ↔ .readLine (.ok none) ∈ calls
  /-- The machine is left as its latest run left it. -/
  left : ∀ result after, answer = some (result, after) →
    ∃ latest, starts.getLast? = some latest ∧ LeftBy limit latest after result
  /-- There is an answer unless the rounds or the cycles of the latest run are used up. -/
  unfinished : answer = none → (lines calls).length = rounds ∨
    ∃ latest, starts.getLast? = some latest ∧ latest.runText limit = none

theorem Dialogue.shows
    {prompt : String} {limit rounds : Nat} {machine : Machine} {calls : List Console.Call}
    {starts : List Machine} {transcripts : List Transcript}
    {answer : Option (Except Interruption Phase × Machine)}
    (dialogue : Dialogue prompt limit rounds machine calls starts transcripts answer) :
    Shows prompt transcripts calls where
  displayed := fun transcript _ => transcript.displayedBy_display prompt
  inOrder := by
    rcases dialogue.texts_eq_or with all | ⟨part, -⟩
    · exact all ▸ List.prefix_rfl
    · exact part
  whole := by
    intro took
    rcases dialogue.texts_eq_or with all | ⟨-, text, error, refused⟩
    · exact all
    · exact absurd refused (took text error)
  taken := dialogue.shown_prefix
  last := dialogue.pairwise_calls
  asked := fun _ _ _ split => dialogue.asked split

theorem output_of_runText_ok
    {machine after : Machine} {limit : Nat} {transcript : Transcript}
    (ran : machine.runText limit = some (.ok transcript, after)) : after.channel.output = #[] := by
  obtain ⟨stopped, -, -, rfl⟩ := run_of_runText_ok ran
  rfl

/-- A dialogue with an answer leaves the machine as its latest run left it. -/
theorem Dialogue.leftBy
    {prompt : String} {limit rounds : Nat} {machine : Machine} {calls : List Console.Call}
    {starts : List Machine} {transcripts : List Transcript}
    {answer : Option (Except Interruption Phase × Machine)}
    (dialogue : Dialogue prompt limit rounds machine calls starts transcripts answer)
    {result : Except Interruption Phase} {after : Machine}
    (answered : answer = some (result, after)) :
    ∃ latest, starts.getLast? = some latest ∧ LeftBy limit latest after result := by
  induction dialogue with
  | paused machine => cases answered
  | unreturned ran => cases answered
  | @faulted rounds machine after fault ran =>
      cases answered
      exact ⟨machine, rfl, ran, output_of_fault (.inr ran)⟩
  | @refused rounds machine after transcript before further text error ran shows =>
      cases answered
      exact ⟨machine, rfl, transcript, ran, output_of_runText_ok ran⟩
  | @halted rounds machine after transcript ran ended =>
      cases answered
      exact ⟨machine, rfl, transcript, ran, ended, output_of_runText_ok ran⟩
  | @unread rounds machine after transcript error ran waits =>
      cases answered
      exact ⟨machine, rfl, transcript, ran, output_of_runText_ok ran⟩
  | @exhausted rounds machine after transcript ran waits =>
      cases answered
      exact ⟨machine, rfl, transcript, ran, waits, output_of_runText_ok ran⟩
  | line ran waits further ih =>
      obtain ⟨latest, last, left⟩ := ih answered
      exact ⟨latest, by rw [List.getLast?_cons, last]; rfl, left⟩

theorem Dialogue.ends
    {prompt : String} {limit rounds : Nat} {machine : Machine} {calls : List Console.Call}
    {starts : List Machine} {transcripts : List Transcript}
    {answer : Option (Except Interruption Phase × Machine)}
    (dialogue : Dialogue prompt limit rounds machine calls starts transcripts answer) :
    Ends limit rounds starts transcripts calls answer where
  console := dialogue.mem_errors_iff
  machine := dialogue.fault_iff
  halted := dialogue.halted_iff
  blocked := dialogue.blocked_iff
  left := fun _ _ answered => dialogue.leftBy answered
  unfinished := dialogue.of_unfinished

/-! ## Beside a conversation without failure -/

section Reliable

variable {τ : Type} {other : Console (StateM τ)} {stands : List String → List String → τ → Prop}
  {prompt : String} {limit : Nat}

/-- A round on a reliable console shows its transcript in front of what is shown later. -/
theorem tookFirst_of_run
    (reliable : other.Reliable stands) {machine stopped : Machine} {phase : Phase}
    (ran : machine.run limit = some (.ok phase, stopped)) {rounds : Nat}
    (rest : ∀ (machine : Machine) (lines earlier : List String) (state : τ),
      stands lines earlier state →
        Console.TookFirst stands earlier
          ((machine.converse other prompt limit rounds).run state).2)
    {lines earlier : List String} {state : τ} (standing : stands lines earlier state) :
    Console.TookFirst stands (earlier ++ Transcript.display ⟨stopped.drain.1, phase⟩ prompt)
      ((machine.converse other prompt limit (rounds + 1)).run state).2 := by
  obtain ⟨next, wrote, standing'⟩ := reliable.writeAll standing
    (Transcript.display ⟨stopped.drain.1, phase⟩ prompt)
  obtain ⟨waits, rfl | rfl⟩ := phase_of_run ran
  · cases lines with
    | nil =>
        obtain ⟨last, ended, standingLast⟩ := reliable.readLine_nil standing'
        rw [converse_of_exhausted ran wrote ended]
        exact .of_stands standingLast
    | cons line lines =>
        obtain ⟨last, read, standingLast⟩ := reliable.readLine_cons standing'
        rw [converse_of_line ran wrote read waits]
        exact rest _ _ _ _ standingLast
  · rw [converse_of_halted ran wrote]
    exact .of_stands standing'

/-- A conversation on a reliable console leaves in front what was shown before it. -/
theorem tookFirst_of_stands
    (reliable : other.Reliable stands) (rounds : Nat) (machine : Machine)
    (lines earlier : List String) (state : τ) (standing : stands lines earlier state) :
    Console.TookFirst stands earlier
      ((machine.converse other prompt limit rounds).run state).2 := by
  induction rounds generalizing machine lines earlier state with
  | zero => exact .of_stands standing
  | succ rounds ih =>
      rcases ran : machine.run limit with _ | ⟨fault | phase, stopped⟩
      · rw [converse_of_unreturned ran]
        exact .of_stands standing
      · rw [converse_of_faulted ran]
        exact .of_stands standing
      · exact (tookFirst_of_run reliable ran ih standing).of_append

theorem tookFirst_of_runText
    (reliable : other.Reliable stands) {machine after : Machine} {transcript : Transcript}
    (ran : machine.runText limit = some (.ok transcript, after)) {larger rounds longer : Nat}
    (limits : limit ≤ larger) (lasts : rounds + 1 ≤ longer) {lines earlier : List String}
    {state : τ} (standing : stands lines earlier state) :
    Console.TookFirst stands (earlier ++ transcript.display prompt)
      ((machine.converse other prompt larger longer).run state).2 := by
  obtain ⟨longer, rfl⟩ := Nat.exists_eq_add_of_le' lasts
  obtain ⟨stopped, run, same, -⟩ := run_of_runText_ok ran
  rw [same]
  exact tookFirst_of_run reliable (run_mono run limits)
    (tookFirst_of_stands reliable (longer + rounds)) standing

/--
What a dialogue gave to its console comes first in what a conversation shows that does not fail,
goes on for at least as long, and is given the same lines first.
-/
theorem Dialogue.tookFirst
    {rounds : Nat} {machine : Machine} {calls : List Console.Call} {starts : List Machine}
    {transcripts : List Transcript} {answer : Option (Except Interruption Phase × Machine)}
    (dialogue : Dialogue prompt limit rounds machine calls starts transcripts answer)
    (reliable : other.Reliable stands) {larger longer : Nat} (limits : limit ≤ larger)
    (lasts : rounds ≤ longer) {further earlier : List String} {state : τ}
    (standing : stands (lines calls ++ further) earlier state) :
    Console.TookFirst stands (earlier ++ texts calls)
      ((machine.converse other prompt larger longer).run state).2 := by
  induction dialogue generalizing longer earlier state with
  | paused machine =>
      rw [Console.Call.texts_nil, List.append_nil]
      exact tookFirst_of_stands reliable _ _ _ _ _ standing
  | unreturned ran =>
      rw [Console.Call.texts_nil, List.append_nil]
      exact tookFirst_of_stands reliable _ _ _ _ _ standing
  | faulted ran =>
      rw [Console.Call.texts_nil, List.append_nil]
      exact tookFirst_of_stands reliable _ _ _ _ _ standing
  | @refused rounds machine after transcript before rest text error ran shows =>
      have took : Console.TookFirst stands (earlier ++ transcript.display prompt)
          ((machine.converse other prompt larger longer).run state).2 :=
        tookFirst_of_runText reliable ran limits lasts standing
      rw [shows, List.append_cons, ← List.append_assoc] at took
      simpa using took.of_append
  | halted ran ended => simpa using tookFirst_of_runText reliable ran limits lasts standing
  | unread ran waits => simpa using tookFirst_of_runText reliable ran limits lasts standing
  | exhausted ran waits => simpa using tookFirst_of_runText reliable ran limits lasts standing
  | @line rounds machine after transcript line calls starts transcripts answer ran waits rest ih =>
      obtain ⟨longer, rfl⟩ := Nat.exists_eq_add_of_le' lasts
      obtain ⟨stopped, run, same, rfl⟩ := run_of_runText_ok ran
      rw [waits] at run same
      have running := run_mono run limits
      have ahead : stands (line :: (lines calls ++ further)) earlier state := by
        simpa using standing
      obtain ⟨next, wrote, standing'⟩ := reliable.writeAll ahead (transcript.display prompt)
      obtain ⟨last, read, standingLast⟩ := reliable.readLine_cons standing'
      rw [same] at wrote
      have took := ih (Nat.le_add_left rounds longer) standingLast
      rw [← Nat.add_assoc, converse_of_line running wrote read (phase_of_run running).1]
      simpa using took

end Reliable

/-! ## The conversation -/

/--
A conversation on any console shows its runs.  Its calls of the console are those that an observer
sees.  They show the transcripts of the runs in order, with a line asked for between two of them,
and there is at most one run more than there are lines.  The conversation ends as its last run and
its last call do.  Beside a conversation that does not fail, with the same lines first, it gave the
console a first part of the same texts.
-/
theorem conversation_shows_its_runs
    {σ : Type} (console : Console (StateM σ)) (prompt : String) (limit rounds : Nat)
    (machine : Machine) (state : σ) :
    ∃ answer last calls starts transcripts,
      (machine.converse console prompt limit rounds).run state = (answer, last) ∧
        (machine.converse console.observed prompt limit rounds).run (state, []) =
          (answer, last, calls) ∧
        starts = machine.stages limit rounds (lines calls) ∧
        starts.length ≤ (lines calls).length + 1 ∧
        transcripts = starts.filterMap (transcript? limit) ∧
        Shows prompt transcripts calls ∧
        Ends limit rounds starts transcripts calls answer ∧
        ∀ (τ : Type) (other : Console (StateM τ)) (stands : List String → List String → τ → Prop)
          (further : List String) (start : τ) (larger longer : Nat),
          other.Reliable stands → stands (lines calls ++ further) [] start → limit ≤ larger →
            rounds ≤ longer →
              Console.TookFirst stands (texts calls)
                ((machine.converse other prompt larger longer).run start).2 := by
  obtain ⟨answer, last, calls, starts, transcripts, performed, watched, dialogue⟩ :=
    performs console prompt limit rounds machine state []
  refine ⟨answer, last, calls, starts, transcripts, performed, watched, dialogue.starts_eq, ?_,
    dialogue.transcripts_eq, dialogue.shows, dialogue.ends, ?_⟩
  · rw [dialogue.starts_eq]
    exact length_stages_le limit rounds (lines calls) machine
  · intro τ other stands further start larger longer reliable standing limits lasts
    exact dialogue.tookFirst reliable limits lasts standing

/-- A console that takes one text breaks off a program that has two to show. -/
example :
    (((empty.start ⟨[104, 79, 104, 200, 99]⟩).converse Script.console "?" 20 1).run
      ⟨[], [], some 1⟩).2.shown = ["O"] := by
  decide +kernel

end Machine

end Intcode
