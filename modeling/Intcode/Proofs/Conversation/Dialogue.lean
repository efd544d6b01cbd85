import Intcode.Proofs.Console.Observed
import Intcode.Proofs.Conversation.Rounds
import Intcode.Proofs.History.Calls

/-!
# Dialogues

A dialogue is a conversation as its console sees it: the texts that it was given and the lines that
it was asked for, each with what came of it.  Every conversation is a dialogue, on whatever console,
and the calls of a dialogue follow from its runs up to the point where a call fails.
-/

namespace Intcode

namespace Machine

/-! ## The runs of a conversation -/

/-- The machines that the runs of a conversation start with while the console gives these lines. -/
def stages (limit : Nat) : Nat → List String → Machine → List Machine
  | 0, _, _ => []
  | rounds + 1, lines, machine =>
      machine :: match lines, machine.runText limit with
        | line :: rest, some (.ok ⟨_, .blocked⟩, after) =>
            stages limit rounds rest (after.sendLine line).2
        | _, _ => []

/-- The transcript of a run that is suspended: one that ends without a fault. -/
def transcript? (limit : Nat) (machine : Machine) : Option Transcript :=
  match machine.runText limit with
  | some (.ok transcript, _) => some transcript
  | _ => none

/-- There are as many runs as there are lines, and one more. -/
theorem length_stages_le (limit rounds : Nat) (lines : List String) (machine : Machine) :
    (machine.stages limit rounds lines).length ≤ lines.length + 1 := by
  induction rounds generalizing lines machine with
  | zero => exact Nat.zero_le _
  | succ rounds ih =>
      unfold stages
      split
      · exact Nat.succ_le_succ (ih _ _)
      · exact Nat.succ_le_succ (Nat.zero_le _)

theorem stages_of_line
    {machine after : Machine} {limit : Nat} {transcript : Transcript}
    (ran : machine.runText limit = some (.ok transcript, after))
    (waits : transcript.phase = .blocked) (rounds : Nat) (line : String) (lines : List String) :
    machine.stages limit (rounds + 1) (line :: lines) =
      machine :: (after.sendLine line).2.stages limit rounds lines := by
  obtain ⟨codes, phase⟩ := transcript
  cases waits
  simp only [stages, ran]

/-- A run that is suspended leaves the machine blocked or halted. -/
theorem phase_of_run
    {machine stopped : Machine} {limit : Nat} {phase : Phase}
    (ran : machine.run limit = some (.ok phase, stopped)) :
    stopped.phase = phase ∧ (phase = .blocked ∨ phase = .halted) := by
  cases live : machine.phase.isStopped with
  | true =>
      rw [run_of_isStopped live] at ran
      cases ran
  | false => exact Returns.phase live ⟨limit, ran⟩

theorem run_of_runText_ok
    {machine after : Machine} {limit : Nat} {transcript : Transcript}
    (ran : machine.runText limit = some (.ok transcript, after)) :
    ∃ stopped, machine.run limit = some (.ok transcript.phase, stopped) ∧
      transcript = ⟨stopped.drain.1, transcript.phase⟩ ∧ after = stopped.drain.2 := by
  rcases runText_eq_some ran with ⟨fault, -, impossible⟩ | ⟨phase, stopped, run, same, rfl⟩
  · cases impossible
  · cases same
    exact ⟨stopped, run, rfl, rfl⟩

/-! ## Dialogues -/

/--
A dialogue of a machine: the calls of the console, the machines that its runs start with, the
transcripts of the runs that are suspended, and the answer.
-/
inductive Dialogue (prompt : String) (limit : Nat) :
    Nat → Machine → List Console.Call → List Machine → List Transcript →
      Option (Except Interruption Phase × Machine) → Prop where
  /-- No round is left. -/
  | paused (machine : Machine) : Dialogue prompt limit 0 machine [] [] [] none
  /-- The run uses up its limit. -/
  | unreturned {rounds : Nat} {machine : Machine} (ran : machine.runText limit = none) :
      Dialogue prompt limit (rounds + 1) machine [] [machine] [] none
  /-- The run faults. -/
  | faulted {rounds : Nat} {machine after : Machine} {fault : Fault}
      (ran : machine.runText limit = some (.error fault, after)) :
      Dialogue prompt limit (rounds + 1) machine [] [machine] []
        (some (.error (.machine fault), after))
  /-- The console refuses a text. -/
  | refused {rounds : Nat} {machine after : Machine} {transcript : Transcript}
      {before further : List String} {text : String} {error : HostError}
      (ran : machine.runText limit = some (.ok transcript, after))
      (shows : transcript.display prompt = before ++ text :: further) :
      Dialogue prompt limit (rounds + 1) machine
        (before.map .taken ++ [.write text (.error error)]) [machine] [transcript]
        (some (.error (.console error), after))
  /-- The program halts. -/
  | halted {rounds : Nat} {machine after : Machine} {transcript : Transcript}
      (ran : machine.runText limit = some (.ok transcript, after))
      (ended : transcript.phase = .halted) :
      Dialogue prompt limit (rounds + 1) machine
        ((transcript.display prompt).map .taken) [machine] [transcript]
        (some (.ok .halted, after))
  /-- The program waits, and the console fails to give a line. -/
  | unread {rounds : Nat} {machine after : Machine} {transcript : Transcript} {error : HostError}
      (ran : machine.runText limit = some (.ok transcript, after))
      (waits : transcript.phase = .blocked) :
      Dialogue prompt limit (rounds + 1) machine
        ((transcript.display prompt).map .taken ++ [.readLine (.error error)]) [machine]
        [transcript] (some (.error (.console error), after))
  /-- The program waits, and the console has no more lines. -/
  | exhausted {rounds : Nat} {machine after : Machine} {transcript : Transcript}
      (ran : machine.runText limit = some (.ok transcript, after))
      (waits : transcript.phase = .blocked) :
      Dialogue prompt limit (rounds + 1) machine
        ((transcript.display prompt).map .taken ++ [.readLine (.ok none)]) [machine] [transcript]
        (some (.ok .blocked, after))
  /-- The program waits, and is sent a line. -/
  | line {rounds : Nat} {machine after : Machine} {transcript : Transcript} {line : String}
      {calls : List Console.Call} {starts : List Machine} {transcripts : List Transcript}
      {answer : Option (Except Interruption Phase × Machine)}
      (ran : machine.runText limit = some (.ok transcript, after))
      (waits : transcript.phase = .blocked)
      (further : Dialogue prompt limit rounds (after.sendLine line).2 calls starts transcripts
        answer) :
      Dialogue prompt limit (rounds + 1) machine
        ((transcript.display prompt).map .taken ++ .readLine (.ok (some line)) :: calls)
        (machine :: starts) (transcript :: transcripts) answer

section Observed

variable {σ : Type} (console : Console (StateM σ)) (prompt : String) (limit rounds : Nat)
  (machine : Machine)

/-- A conversation performs these calls as a dialogue, observed or not. -/
def Performs (state : σ) (calls : List Console.Call) : Prop :=
  ∃ answer last further starts transcripts,
    (machine.converse console prompt limit rounds).run state = (answer, last) ∧
      (machine.converse console.observed prompt limit rounds).run (state, calls) =
        (answer, last, calls ++ further) ∧
      Dialogue prompt limit rounds machine further starts transcripts answer

variable {console prompt limit rounds machine}

/-- A round that showed a transcript and waits goes on as the console answers. -/
theorem performs_of_waits
    {stopped : Machine} {state next : σ} {calls : List Console.Call}
    (ran : machine.run limit = some (.ok .blocked, stopped)) (waits : stopped.phase = .blocked)
    (wrote : (console.writeAll
      (Transcript.display ⟨stopped.drain.1, .blocked⟩ prompt)).run state = (.ok (), next))
    (observed : (console.observed.writeAll
      (Transcript.display ⟨stopped.drain.1, .blocked⟩ prompt)).run (state, calls) =
        (.ok (), next,
          calls ++ (Transcript.display ⟨stopped.drain.1, .blocked⟩ prompt).map .taken))
    (rest : ∀ (machine : Machine) (state : σ) (calls : List Console.Call),
      Performs console prompt limit rounds machine state calls) :
    Performs console prompt limit (rounds + 1) machine state calls := by
  have text : machine.runText limit =
      some (.ok ⟨stopped.drain.1, .blocked⟩, stopped.drain.2) := by
    rw [runText, ran]
    rfl
  rcases read : console.readLine.run next with ⟨error | line, last⟩
  · refine ⟨_, last, _, _, _, converse_of_unread ran wrote read rounds, ?_, .unread text rfl⟩
    rw [← List.append_assoc]
    exact converse_of_unread ran observed (Console.run_record read _ _) rounds
  · cases line with
    | none =>
        refine ⟨_, last, _, _, _, converse_of_exhausted ran wrote read rounds, ?_,
          .exhausted text rfl⟩
        rw [← List.append_assoc]
        exact converse_of_exhausted ran observed (Console.run_record read _ _) rounds
    | some line =>
        obtain ⟨answer, final, further, starts, transcripts, performed, watched, dialogue⟩ :=
          rest (stopped.drain.2.sendLine line).2 last
            (calls ++ (Transcript.display ⟨stopped.drain.1, .blocked⟩ prompt).map .taken ++
              [.readLine (.ok (some line))])
        refine ⟨answer, final, _, _, _, ?_, ?_, .line text rfl dialogue⟩
        · rw [converse_of_line ran wrote read waits]
          exact performed
        · rw [converse_of_line ran observed (Console.run_record read _ _) waits, watched,
            List.append_assoc, List.append_assoc, List.singleton_append]

/-- Every conversation is a dialogue. -/
theorem performs (console : Console (StateM σ)) (prompt : String) (limit rounds : Nat)
    (machine : Machine) (state : σ) (calls : List Console.Call) :
    Performs console prompt limit rounds machine state calls := by
  induction rounds generalizing machine state calls with
  | zero =>
      refine ⟨none, state, [], [], [], rfl, ?_, .paused machine⟩
      rw [List.append_nil]
      rfl
  | succ rounds ih =>
      rcases ran : machine.run limit with _ | ⟨fault | phase, stopped⟩
      · have text : machine.runText limit = none := by
          rw [runText, ran]
          rfl
        refine ⟨none, state, [], _, _, converse_of_unreturned ran rounds, ?_, .unreturned text⟩
        rw [List.append_nil]
        exact converse_of_unreturned ran rounds
      · have text : machine.runText limit = some (.error fault, stopped) := by
          rw [runText, ran]
          rfl
        refine ⟨_, state, [], _, _, converse_of_faulted ran rounds, ?_, .faulted text⟩
        rw [List.append_nil]
        exact converse_of_faulted ran rounds
      · have text : machine.runText limit =
            some (.ok ⟨stopped.drain.1, phase⟩, stopped.drain.2) := by
          rw [runText, ran]
          rfl
        obtain ⟨waits, phases⟩ := phase_of_run ran
        rcases console.writeAll_observed
            (Transcript.display ⟨stopped.drain.1, phase⟩ prompt) state calls with
          ⟨next, wrote, observed⟩ |
          ⟨before, refused, further, error, next, shows, wrote, observed⟩
        · rcases phases with rfl | rfl
          · exact performs_of_waits ran waits wrote observed ih
          · exact ⟨_, next, _, _, _, converse_of_halted ran wrote rounds,
              converse_of_halted ran observed rounds, .halted text rfl⟩
        · exact ⟨_, next, _, _, _, converse_of_refused ran wrote rounds,
            converse_of_refused ran observed rounds, .refused text shows⟩

end Observed

namespace Dialogue

open Console.Call (texts shown lines errors)

variable {prompt : String} {limit rounds : Nat} {machine : Machine} {calls : List Console.Call}
  {starts : List Machine} {transcripts : List Transcript}
  {answer : Option (Except Interruption Phase × Machine)}

theorem starts_eq
    (dialogue : Dialogue prompt limit rounds machine calls starts transcripts answer) :
    starts = machine.stages limit rounds (lines calls) := by
  induction dialogue with
  | paused machine => rfl
  | unreturned ran => rfl
  | faulted ran => rfl
  | refused ran shows =>
      rw [Console.Call.lines_append, Console.Call.lines_map_taken]
      rfl
  | halted ran ended =>
      rw [Console.Call.lines_map_taken]
      rfl
  | unread ran waits =>
      rw [Console.Call.lines_append, Console.Call.lines_map_taken]
      rfl
  | exhausted ran waits =>
      rw [Console.Call.lines_append, Console.Call.lines_map_taken]
      rfl
  | @line rounds machine after transcript line calls starts transcripts answer ran waits further
      ih =>
      rw [Console.Call.lines_append, Console.Call.lines_map_taken, ih]
      exact (stages_of_line ran waits rounds line (lines calls)).symm

theorem transcripts_eq
    (dialogue : Dialogue prompt limit rounds machine calls starts transcripts answer) :
    transcripts = starts.filterMap (transcript? limit) := by
  induction dialogue with
  | paused machine => rfl
  | unreturned ran => simp [transcript?, ran]
  | faulted ran => simp [transcript?, ran]
  | refused ran shows => simp [transcript?, ran]
  | halted ran ended => simp [transcript?, ran]
  | unread ran waits => simp [transcript?, ran]
  | exhausted ran waits => simp [transcript?, ran]
  | line ran waits further ih => simp [transcript?, ran, ih]

/-- The console is given all texts of the transcripts, or refuses one of them. -/
theorem texts_eq_or
    (dialogue : Dialogue prompt limit rounds machine calls starts transcripts answer) :
    texts calls = transcripts.flatMap (·.display prompt) ∨
      texts calls <+: transcripts.flatMap (·.display prompt) ∧
        ∃ text error, .write text (.error error) ∈ calls := by
  induction dialogue with
  | paused machine => exact .inl rfl
  | unreturned ran => exact .inl rfl
  | faulted ran => exact .inl rfl
  | @refused rounds machine after transcript before further text error ran shows =>
      refine .inr ⟨⟨further, ?_⟩, text, error, by simp⟩
      simp [shows]
  | halted ran ended => simp
  | unread ran waits => simp
  | exhausted ran waits => simp
  | line ran waits further ih =>
      rcases ih with all | ⟨part, text, error, refused⟩
      · exact .inl (by simp [all])
      · refine .inr ⟨?_, text, error, by simp [refused]⟩
        simpa using part

theorem shown_prefix
    (dialogue : Dialogue prompt limit rounds machine calls starts transcripts answer) :
    shown calls <+: texts calls := by
  induction dialogue with
  | paused machine => exact List.prefix_rfl
  | unreturned ran => exact List.prefix_rfl
  | faulted ran => exact List.prefix_rfl
  | refused ran shows => simp
  | halted ran ended => simp
  | unread ran waits => simp
  | exhausted ran waits => simp
  | line ran waits further ih => simpa using ih

theorem pairwise_calls
    (dialogue : Dialogue prompt limit rounds machine calls starts transcripts answer) :
    calls.Pairwise fun earlier _ => earlier.error? = none := by
  induction dialogue with
  | paused machine => exact .nil
  | unreturned ran => exact .nil
  | faulted ran => exact .nil
  | refused ran shows => exact Console.Call.pairwise_behind_taken _ (List.pairwise_singleton _ _)
  | halted ran ended =>
      rw [← List.append_nil (List.map _ _)]
      exact Console.Call.pairwise_behind_taken _ .nil
  | unread ran waits => exact Console.Call.pairwise_behind_taken _ (List.pairwise_singleton _ _)
  | exhausted ran waits => exact Console.Call.pairwise_behind_taken _ (List.pairwise_singleton _ _)
  | line ran waits further ih =>
      exact Console.Call.pairwise_behind_taken _ (.cons (fun _ _ => rfl) ih)

/-- A line is asked for when the transcripts so far were shown whole, and the last of them waits. -/
theorem asked
    (dialogue : Dialogue prompt limit rounds machine calls starts transcripts answer)
    {before further : List Console.Call} {result : Except HostError (Option String)}
    (split : calls = before ++ .readLine result :: further) :
    ∃ earlier transcript later, transcripts = earlier ++ transcript :: later ∧
      transcript.phase = .blocked ∧ earlier.length = (lines before).length ∧
      shown before = (earlier ++ [transcript]).flatMap (·.display prompt) := by
  induction dialogue generalizing before with
  | paused machine => simp at split
  | unreturned ran => simp at split
  | faulted ran => simp at split
  | refused ran shows => cases (Console.Call.split_last_behind_taken split).2
  | halted ran ended =>
      rw [← List.append_nil (List.map _ _)] at split
      obtain ⟨between, -, last⟩ := Console.Call.split_behind_taken split
      simp at last
  | unread ran waits =>
      obtain ⟨rfl, -⟩ := Console.Call.split_last_behind_taken split
      exact ⟨[], _, [], rfl, waits, by simp, by simp⟩
  | exhausted ran waits =>
      obtain ⟨rfl, -⟩ := Console.Call.split_last_behind_taken split
      exact ⟨[], _, [], rfl, waits, by simp, by simp⟩
  | @line rounds machine after first line calls starts transcripts answer ran waits rest ih =>
      -- the line is asked for in this round, or in one of those that follow
      obtain ⟨between, rfl, last⟩ := Console.Call.split_behind_taken split
      cases between with
      | nil => exact ⟨[], first, transcripts, rfl, waits, by simp, by simp⟩
      | cons call between =>
          obtain ⟨rfl, further⟩ := List.cons.inj last
          obtain ⟨earlier, transcript, later, rfl, blocked, place, all⟩ := ih further
          refine ⟨first :: earlier, transcript, later, rfl, blocked, by simp [place], ?_⟩
          simp [all]

/-- A dialogue breaks off with the error that a call of the console failed with. -/
theorem mem_errors_iff
    (dialogue : Dialogue prompt limit rounds machine calls starts transcripts answer)
    (error : HostError) :
    error ∈ errors calls ↔ ∃ after, answer = some (.error (.console error), after) := by
  induction dialogue with
  | paused machine => simp [errors]
  | unreturned ran => simp [errors]
  | faulted ran => simp [errors]
  | refused ran shows => simp [eq_comm]
  | halted ran ended => simp
  | unread ran waits => simp [eq_comm]
  | exhausted ran waits => simp
  | line ran waits further ih => simp [ih]

/-- A dialogue breaks off with the fault of a run. -/
theorem fault_iff
    (dialogue : Dialogue prompt limit rounds machine calls starts transcripts answer)
    (fault : Fault) (after : Machine) :
    (∃ start ∈ starts, start.runText limit = some (.error fault, after)) ↔
      answer = some (.error (.machine fault), after) := by
  induction dialogue with
  | paused machine => simp
  | unreturned ran => simp [ran]
  | faulted ran => simp [ran]
  | refused ran shows => simp [ran]
  | halted ran ended => simp [ran]
  | unread ran waits => simp [ran]
  | exhausted ran waits => simp [ran]
  | line ran waits further ih => simp [ran, ← ih]

theorem halted_iff
    (dialogue : Dialogue prompt limit rounds machine calls starts transcripts answer)
    (sound : errors calls = []) :
    (∃ after, answer = some (.ok .halted, after)) ↔
      ∃ transcript ∈ transcripts, transcript.phase = .halted := by
  induction dialogue with
  | paused machine => simp
  | unreturned ran => simp
  | faulted ran => simp
  | refused ran shows => simp at sound
  | halted ran ended => simp [ended]
  | unread ran waits => simp at sound
  | exhausted ran waits => simp [waits]
  | line ran waits further ih =>
      have rest := ih (by simpa using sound)
      simp [waits, rest]

theorem blocked_iff
    (dialogue : Dialogue prompt limit rounds machine calls starts transcripts answer) :
    (∃ after, answer = some (.ok .blocked, after)) ↔ .readLine (.ok none) ∈ calls := by
  induction dialogue with
  | paused machine => simp
  | unreturned ran => simp
  | faulted ran => simp
  | refused ran shows => simp
  | halted ran ended => simp
  | unread ran waits => simp
  | exhausted ran waits => simp
  | line ran waits further ih => simp [ih]

theorem of_unfinished
    (dialogue : Dialogue prompt limit rounds machine calls starts transcripts answer)
    (unfinished : answer = none) :
    (lines calls).length = rounds ∨
      ∃ latest, starts.getLast? = some latest ∧ latest.runText limit = none := by
  induction dialogue with
  | paused machine => exact .inl rfl
  | unreturned ran => exact .inr ⟨_, rfl, ran⟩
  | faulted ran => cases unfinished
  | refused ran shows => cases unfinished
  | halted ran ended => cases unfinished
  | unread ran waits => cases unfinished
  | exhausted ran waits => cases unfinished
  | line ran waits further ih =>
      rcases ih unfinished with used | ⟨latest, last, unreturned⟩
      · exact .inl (by simp [used])
      · exact .inr ⟨latest, by rw [List.getLast?_cons, last]; rfl, unreturned⟩

end Dialogue

end Machine

end Intcode
