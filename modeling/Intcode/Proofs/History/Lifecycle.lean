import Intcode.Proofs.History.Calls
import Intcode.Proofs.Machine.Residue

/-!
# The life of a machine

Between two calls a machine is ready, blocked, halted or faulted.  A run of a ready or a blocked
machine leaves it blocked, halted or faulted; a halted or a faulted machine refuses to run, a
faulted one refuses input as well, and both stay what they are until a program is loaded.
-/

namespace Intcode

namespace Program

theorem fault_of_readCells_error
    {cell : Nat} {pieces : List (List Char)} {fault : Fault}
    (unreadable : readCells cell pieces = .error fault) :
    ∃ place token, fault = .malformedProgram place token := by
  induction pieces generalizing cell with
  | nil => cases unreadable
  | cons piece rest ih =>
      cases read : Decimal.read? (Text.trimBlanks piece) with
      | none =>
          rw [readCells_cons_of_none read] at unreadable
          cases unreadable
          exact ⟨_, _, rfl⟩
      | some value =>
          rw [readCells_cons_of_some read] at unreadable
          exact ih (Fault.of_map_error unreadable)

theorem fault_of_parse_error
    {text : String} {fault : Fault} (unparsed : parse text = .error fault) :
    ∃ cell token, fault = .malformedProgram cell token := by
  have unread : parseCells text.toList = .error fault := Fault.of_map_error unparsed
  unfold parseCells at unread
  split at unread
  · cases unread
  · exact fault_of_readCells_error unread

end Program

inductive Fault.OfProgram : Fault → Prop where
  | opcode (ip : Address) (code : Int) : OfProgram (.unknownOpcode ip code)
  | mode (ip : Address) (parameter digit : Nat) :
      OfProgram (.invalidAddressingMode ip parameter digit)
  | address (value : Int) : OfProgram (.invalidAddress value)

namespace Machine

theorem Residue.ofProgram {before left : Machine} {fault : Fault}
    (residue : Residue before fault left) : fault.OfProgram := by
  cases residue with
  | opcode unknown => exact .opcode _ _
  | mode named inside => exact .mode _ _ _
  | address fetched first spends => exact .address _
  | overrun fetched effect outside => exact .address _

/-- A run that faults raises a fault of the program and leaves the machine faulted. -/
theorem of_returns_error
    {machine after : Machine} {fault : Fault} (live : machine.phase.isStopped = false)
    (returns : machine.Returns (.error fault) after) :
    after.phase = .faulted ∧ fault.OfProgram := by
  obtain ⟨count, before, -, started, turned⟩ := returns.last_turn live
  obtain ⟨left, residue, rfl⟩ := residue_of_turn started turned
  exact ⟨rfl, residue.ofProgram⟩

theorem phase_of_returns
    {machine after : Machine} {result : Except Fault Phase} (live : machine.phase.isStopped = false)
    (returns : machine.Returns result after) : after.phase ≠ .running := by
  cases result with
  | error fault =>
      rw [(of_returns_error live returns).1]
      exact nofun
  | ok phase =>
      obtain ⟨kept, rfl | rfl⟩ := returns.phase live
      · rw [kept]
        exact nofun
      · rw [kept]
        exact nofun

/-- Between two calls no machine is running. -/
theorem History.phase_ne_running
    {machine : Machine} {calls : List (Call × Reply)} {events : List Channel.Event}
    (history : History empty calls events machine) : machine.phase ≠ .running := by
  apply History.invariant (fun machine => machine.phase ≠ .running) _ _ _ history nofun
  · intro machine program
    exact nofun
  · intro machine channel resting
    exact resting
  · intro machine result after resting live returns
    exact phase_of_returns live returns

/-- A machine that has stopped stays as it stopped until a program is loaded. -/
theorem History.phase_of_isStopped
    {machine after : Machine} {calls : List (Call × Reply)} {events : List Channel.Event}
    (history : History machine calls events after) (stopped : machine.phase.isStopped = true)
    (unloaded : ∀ entry ∈ calls, ¬ entry.1.Loads entry.2) : after.phase = machine.phase := by
  induction history with
  | nil machine => rfl
  | @cons machine middle after call reply limit calls events answered further ih =>
      have apart : ¬ call.Loads reply := unloaded (call, reply) List.mem_cons_self
      have kept : middle.phase = machine.phase := by
        cases leaves_of_answer answered with
        | exchanged channel => rfl
        | started program loads => exact absurd loads apart
        | returned channel live returns =>
            rw [live] at stopped
            cases stopped
      have stopped' : middle.phase.isStopped = true := by
        rw [kept]
        exact stopped
      rw [ih stopped' fun entry later => unloaded entry (List.mem_cons_of_mem _ later)]
      exact kept

/-- How a machine answers input, whether it comes as a value or as a line. -/
structure AnswersInput (machine : Machine) (outcome : Except Fault Unit × Machine) : Prop where
  fails_iff : (∃ fault, outcome.1 = .error fault) ↔ machine.phase = .faulted
  refused (faulted : machine.phase = .faulted) :
    outcome = (.error (.invalidTransition .faulted .enqueueInput), machine)
  phase : outcome.2.phase = machine.phase

theorem answersInput (machine : Machine) (values : List Int) :
    AnswersInput machine (machine.enqueueAll values) := by
  rcases machine.enqueueAll_eq values with ⟨faulted, refused⟩ | ⟨sound, accepted⟩
  · rw [refused]
    exact ⟨⟨fun _ => faulted, fun _ => ⟨_, rfl⟩⟩, fun _ => rfl, rfl⟩
  · rw [accepted]
    refine ⟨⟨?_, fun faulted => absurd faulted sound⟩, fun faulted => absurd faulted sound, rfl⟩
    rintro ⟨fault, failed⟩
    cases failed

theorem answersLine (machine : Machine) (line : String) :
    AnswersInput machine (machine.sendLine line) := by
  rw [sendLine_eq]
  exact machine.answersInput (lineCodes line)

/-- How a machine answers when it is run, with values or with text, and answers within a limit. -/
structure AnswersRun (machine : Machine) : Prop where
  suspends_or_faults {limit : Nat} {result : Except Fault Phase} {after : Machine}
    (live : machine.phase = .ready ∨ machine.phase = .blocked)
    (ran : machine.run limit = some (result, after)) :
    (∃ phase, result = .ok phase ∧ after.phase = phase ∧ (phase = .blocked ∨ phase = .halted)) ∨
      ∃ fault, result = .error fault ∧ after.phase = .faulted ∧ fault.OfProgram
  suspends_or_faults_text {limit : Nat} {result : Except Fault Transcript} {after : Machine}
    (live : machine.phase = .ready ∨ machine.phase = .blocked)
    (ran : machine.runText limit = some (result, after)) :
    (∃ transcript, result = .ok transcript ∧ after.phase = transcript.phase ∧
        (transcript.phase = .blocked ∨ transcript.phase = .halted)) ∨
      ∃ fault, result = .error fault ∧ after.phase = .faulted ∧ fault.OfProgram
  refuses (stopped : machine.phase = .halted ∨ machine.phase = .faulted) (limit : Nat) :
    machine.run limit = some (.error (.invalidTransition machine.phase .run), machine) ∧
      machine.runText limit = some (.error (.invalidTransition machine.phase .run), machine)

theorem answersRun (machine : Machine) : AnswersRun machine where
  suspends_or_faults := by
    intro limit result after live ran
    have unstopped := isStopped_of_live live
    cases result with
    | ok phase => exact .inl ⟨phase, rfl, Returns.phase unstopped ⟨limit, ran⟩⟩
    | error fault => exact .inr ⟨fault, rfl, of_returns_error unstopped ⟨limit, ran⟩⟩
  suspends_or_faults_text := by
    intro limit result after live ranText
    have unstopped := isStopped_of_live live
    rcases runText_eq_some ranText with ⟨fault, ran, rfl⟩ | ⟨phase, middle, ran, rfl, rfl⟩
    · exact .inr ⟨fault, rfl, of_returns_error unstopped ⟨limit, ran⟩⟩
    · have returns : machine.Returns (.ok phase) middle := ⟨limit, ran⟩
      obtain ⟨kept, suspended⟩ := returns.phase unstopped
      exact .inl ⟨_, rfl, kept, suspended⟩
  refuses := by
    intro stopped limit
    have refused : machine.run limit =
        some (.error (.invalidTransition machine.phase .run), machine) := by
      apply run_of_isStopped
      rcases stopped with halted | faulted
      · rw [halted]
        rfl
      · rw [faulted]
        rfl
    refine ⟨refused, ?_⟩
    rw [runText, refused]
    rfl

/-- How a machine answers when a text is loaded. -/
theorem answersLoad (machine : Machine) (text : String) :
    ((machine.load text).1 = .ok () ∧ (machine.load text).2.phase = .ready) ∨
      ∃ cell token, machine.load text = (.error (.malformedProgram cell token), machine) := by
  rcases machine.load_eq text with ⟨fault, unparsed, refused⟩ | ⟨program, -, loaded⟩
  · obtain ⟨cell, token, rfl⟩ := Program.fault_of_parse_error unparsed
    exact .inr ⟨cell, token, refused⟩
  · rw [loaded]
    exact .inl ⟨rfl, rfl⟩

/--
The life of a machine.  After any calls it is ready, blocked, halted or faulted.  A run suspends it
or faults, or is refused by a stopped machine, which it leaves as it is; input is refused by a
faulted machine only, which it leaves as it is, and never changes the phase; nor does draining or
listening.  Loading makes the machine ready or, for a malformed text, leaves it as it is.  And so a
stopped machine stays as it stopped until a program is loaded.
-/
theorem lifecycle
    {machine : Machine} {calls : List (Call × Reply)} {events : List Channel.Event}
    (history : History empty calls events machine) :
    (machine.phase = .ready ∨ machine.phase = .blocked ∨ machine.phase = .halted ∨
        machine.phase = .faulted) ∧
      AnswersRun machine ∧
      (∀ value, AnswersInput machine (machine.enqueue value)) ∧
      (∀ line, AnswersInput machine (machine.sendLine line)) ∧
      machine.drain.2.phase = machine.phase ∧
      (∀ listener, (machine.listen listener).phase = machine.phase) ∧
      (∀ text, ((machine.load text).1 = .ok () ∧ (machine.load text).2.phase = .ready) ∨
        ∃ cell token, machine.load text = (.error (.malformedProgram cell token), machine)) ∧
      (∀ program, (machine.start program).phase = .ready) ∧
      ∀ later laterEvents after, History machine later laterEvents after →
        machine.phase = .halted ∨ machine.phase = .faulted →
        (∀ entry ∈ later, ¬ entry.1.Loads entry.2) → after.phase = machine.phase := by
  refine ⟨?_, machine.answersRun, fun value => machine.answersInput [value],
    machine.answersLine, rfl, fun listener => rfl,
    machine.answersLoad, fun program => rfl, ?_⟩
  · have resting := history.phase_ne_running
    cases phase : machine.phase with
    | ready => exact .inl rfl
    | running => exact absurd phase resting
    | blocked => exact .inr (.inl rfl)
    | halted => exact .inr (.inr (.inl rfl))
    | faulted => exact .inr (.inr (.inr rfl))
  · intro later laterEvents after further stopped unloaded
    apply further.phase_of_isStopped _ unloaded
    rcases stopped with halted | faulted
    · rw [halted]
      rfl
    · rw [faulted]
      rfl

/-- A machine that has met a word without an opcode, and refuses to run and to take input. -/
theorem lifecycle_unknown_opcode :
    ∃ calls events machine, History empty calls events machine ∧ machine.phase = .faulted ∧
      (∀ limit, machine.run limit = some (.error (.invalidTransition .faulted .run), machine)) ∧
      machine.enqueue 1 = (.error (.invalidTransition .faulted .enqueueInput), machine) := by
  have answered : ∃ calls events machine,
      empty.answers? [(0, .start ⟨[104, 3, 42, 99]⟩), (2, .run)] = some (calls, events, machine) ∧
        machine.phase = .faulted :=
    ⟨_, _, _, by rfl, by rfl⟩
  obtain ⟨calls, events, machine, answered, faulted⟩ := answered
  have history := history_of_answers answered
  obtain ⟨-, runs, inputs, -⟩ := lifecycle history
  refine ⟨calls, events, machine, history, faulted, fun limit => ?_, (inputs 1).refused faulted⟩
  rw [← faulted]
  exact (runs.refuses (.inr faulted) limit).1

end Machine

end Intcode
