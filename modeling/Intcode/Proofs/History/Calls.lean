import Intcode.Proofs.Channel.Ledger
import Intcode.Proofs.Machine.Chunks
import Intcode.Proofs.Machine.Effects
import Intcode.Transcript

/-!
# Histories of a machine

The owner of a machine loads programs, sends input, takes output, listens, and runs it, with values
or with text, in any order.  A history is a sequence of such calls, each of which returned.  It
tells what the owner was answered, and every event of the channel: those that the owner brought
about, and those that the instructions did.
-/

namespace Intcode

namespace Machine

/-! ## Calls -/

/-- The calls that a machine answers.  A program is loaded from its text or from its cells. -/
inductive Call where
  | load (text : String)
  | start (program : Program)
  | enqueue (value : Int)
  | drain
  | listen (listener : String)
  | run
  | sendLine (line : String)
  | runText

inductive Reply where
  | done (result : Except Fault Unit)
  | values (values : List Int)
  | phase (result : Except Fault Phase)
  | transcript (result : Except Fault Transcript)

/-- The answer to a call, and the machine that the call leaves.  A run has a limit on its cycles,
and there is no answer when it is used up. -/
def answer? (limit : Nat) (machine : Machine) : Call → Option (Reply × Machine)
  | .load text => some (.done (machine.load text).1, (machine.load text).2)
  | .start program => some (.done (.ok ()), machine.start program)
  | .enqueue value => some (.done (machine.enqueue value).1, (machine.enqueue value).2)
  | .drain => some (.values machine.drain.1, machine.drain.2)
  | .listen listener => some (.done (.ok ()), machine.listen listener)
  | .run => (machine.run limit).map fun (result, after) => (.phase result, after)
  | .sendLine line => some (.done (machine.sendLine line).1, (machine.sendLine line).2)
  | .runText => (machine.runText limit).map fun (result, after) => (.transcript result, after)

def Call.Loads : Call → Reply → Prop
  | .load _, .done (.ok ()) => True
  | .start _, _ => True
  | _, _ => False

/-! ## Events of the channel -/

/-- What the instruction at the instruction pointer does with values: an input instruction takes
the one that the channel has for it, and an output instruction puts out its operand. -/
def turnEvents (machine : Machine) : List Channel.Event :=
  match machine.fetch with
  | .ok (.input _) => machine.channel.dequeue.1.toList.map .dequeued
  | .ok (.output mode) => (machine.operand 0 mode).toOption.toList.map .emitted
  | _ => []

def loopEvents : Nat → Machine → List Channel.Event
  | 0, _ => []
  | count + 1, machine =>
      machine.turnEvents ++
        match machine.turn with
        | .running next => loopEvents count next
        | .stopped _ _ => []

def runEvents (limit : Nat) (machine : Machine) : List Channel.Event :=
  if machine.phase.isStopped then [] else loopEvents limit machine.resume

def instructionEvents (limit : Nat) (machine : Machine) : Call → List Channel.Event
  | .run | .runText => machine.runEvents limit
  | .load _ | .start _ | .enqueue _ | .drain | .listen _ | .sendLine _ => []

/-- What the owner brings about by a call, as told by the answer. -/
def Call.ownerEvents : Call → Reply → List Channel.Event
  | .load _, .done (.ok ()) => [.cleared]
  | .start _, .done (.ok ()) => [.cleared]
  | .enqueue value, .done (.ok ()) => [.enqueued value]
  | .sendLine line, .done (.ok ()) => (lineCodes line).map .enqueued
  | .listen listener, .done (.ok ()) => [.subscribed listener]
  | .drain, .values values => [.drained values]
  | .runText, .transcript (.ok transcript) => [.drained transcript.codes]
  | _, _ => []

/-- Calls with their answers, and the events of the channel, from one machine to another. -/
inductive History : Machine → List (Call × Reply) → List Channel.Event → Machine → Prop where
  | nil (machine : Machine) : History machine [] [] machine
  | cons {machine middle after : Machine} {call : Call} {reply : Reply} {limit : Nat}
      {calls : List (Call × Reply)} {events : List Channel.Event}
      (answered : machine.answer? limit call = some (reply, middle))
      (further : History middle calls events after) :
      History machine ((call, reply) :: calls)
        (machine.instructionEvents limit call ++ call.ownerEvents reply ++ events) after

/-- The answers to calls in order, each call with a limit on its cycles, with the events and the
machine that they leave. -/
def answers? :
    List (Nat × Call) → Machine → Option (List (Call × Reply) × List Channel.Event × Machine)
  | [], machine => some ([], [], machine)
  | (limit, call) :: rest, machine =>
      match machine.answer? limit call with
      | none => none
      | some (reply, middle) =>
          (answers? rest middle).map fun (calls, events, after) =>
            ((call, reply) :: calls,
              machine.instructionEvents limit call ++ call.ownerEvents reply ++ events, after)

theorem history_of_answers
    {machine after : Machine} {limited : List (Nat × Call)} {calls : List (Call × Reply)}
    {events : List Channel.Event}
    (answered : machine.answers? limited = some (calls, events, after)) :
    History machine calls events after := by
  induction limited generalizing machine calls events with
  | nil =>
      cases answered
      exact .nil after
  | cons entry rest ih =>
      obtain ⟨limit, call⟩ := entry
      unfold answers? at answered
      cases first : machine.answer? limit call with
      | none =>
          rw [first] at answered
          cases answered
      | some outcome =>
          rw [first] at answered
          obtain ⟨⟨later, laterEvents, last⟩, further, same⟩ := Option.map_eq_some_iff.1 answered
          cases same
          exact .cons first (ih further)

/-! ## The machine that a call leaves -/

/-- A faulted machine takes no input, and any other is fed it. -/
theorem enqueueAll_eq (machine : Machine) (values : List Int) :
    (machine.phase = .faulted ∧
        machine.enqueueAll values =
          (.error (.invalidTransition .faulted .enqueueInput), machine)) ∨
      (machine.phase ≠ .faulted ∧
        machine.enqueueAll values =
          (.ok (), machine.withChannel (machine.channel.enqueueAll values))) := by
  by_cases faulted : machine.phase = .faulted
  · exact .inl ⟨faulted, enqueueAll_of_faulted faulted values⟩
  · exact .inr ⟨faulted, enqueueAll_of_not_faulted faulted values⟩

theorem load_eq (machine : Machine) (text : String) :
    (∃ fault, Program.parse text = .error fault ∧ machine.load text = (.error fault, machine)) ∨
      ∃ program, Program.parse text = .ok program ∧
        machine.load text = (.ok (), machine.start program) := by
  unfold load
  cases parsed : Program.parse text with
  | error fault => exact .inl ⟨fault, rfl, rfl⟩
  | ok program => exact .inr ⟨program, rfl, rfl⟩

/-- A run with text is a run, and drains the output unless it faults. -/
theorem runText_eq_some
    {machine after : Machine} {limit : Nat} {result : Except Fault Transcript}
    (ran : machine.runText limit = some (result, after)) :
    (∃ fault, machine.run limit = some (.error fault, after) ∧ result = .error fault) ∨
      ∃ phase middle, machine.run limit = some (.ok phase, middle) ∧
        result = .ok ⟨middle.drain.1, phase⟩ ∧ after = middle.drain.2 := by
  unfold runText at ran
  rcases answered : machine.run limit with _ | ⟨fault | phase, middle⟩
  · rw [answered] at ran
    cases ran
  · rw [answered] at ran
    cases ran
    exact .inl ⟨fault, rfl, rfl⟩
  · rw [answered] at ran
    cases ran
    exact .inr ⟨phase, middle, rfl, rfl, rfl⟩

/-- A run answers that it is refused, or with the result with which the machine returns. -/
theorem run_eq_some
    {machine after : Machine} {limit : Nat} {result : Except Fault Phase}
    (ran : machine.run limit = some (result, after)) :
    (machine.phase.isStopped = true ∧
        result = .error (.invalidTransition machine.phase .run) ∧ after = machine) ∨
      machine.phase.isStopped = false ∧ machine.Returns result after := by
  cases stopped : machine.phase.isStopped with
  | true =>
      rw [run_of_isStopped stopped] at ran
      cases ran
      exact .inl ⟨rfl, rfl, rfl⟩
  | false => exact .inr ⟨rfl, limit, ran⟩

/--
The machine that a call leaves: the same but for its channel, the machine that starts a program, or
a machine with which a run returned, up to its channel again.
-/
inductive Leaves (machine : Machine) (call : Call) (reply : Reply) : Machine → Prop where
  | exchanged (channel : Channel) : Leaves machine call reply (machine.withChannel channel)
  | started (program : Program) (loads : call.Loads reply) :
      Leaves machine call reply (machine.start program)
  | returned {result : Except Fault Phase} {middle : Machine} (channel : Channel)
      (live : machine.phase.isStopped = false) (returns : machine.Returns result middle) :
      Leaves machine call reply (middle.withChannel channel)

theorem leaves_enqueueAll (machine : Machine) (values : List Int) (call : Call) (reply : Reply) :
    Leaves machine call reply (machine.enqueueAll values).2 := by
  rcases machine.enqueueAll_eq values with ⟨-, refused⟩ | ⟨-, accepted⟩
  · rw [refused]
    exact .exchanged machine.channel
  · rw [accepted]
    exact .exchanged _

theorem leaves_of_run
    {machine after : Machine} {limit : Nat} {result : Except Fault Phase}
    (ran : machine.run limit = some (result, after)) (call : Call) (reply : Reply)
    (channel : Channel) : Leaves machine call reply (after.withChannel channel) := by
  rcases run_eq_some ran with ⟨-, -, rfl⟩ | ⟨live, returns⟩
  · exact .exchanged channel
  · exact .returned channel live returns

/-- All that a call can make of a machine. -/
theorem leaves_of_answer
    {machine after : Machine} {limit : Nat} {call : Call} {reply : Reply}
    (answered : machine.answer? limit call = some (reply, after)) :
    Leaves machine call reply after := by
  cases call with
  | load text =>
      cases answered
      rcases machine.load_eq text with ⟨fault, -, refused⟩ | ⟨program, -, loaded⟩
      · rw [refused]
        exact .exchanged machine.channel
      · rw [loaded]
        exact .started program trivial
  | start program =>
      cases answered
      exact .started program trivial
  | enqueue value =>
      cases answered
      exact machine.leaves_enqueueAll [value] _ _
  | drain =>
      cases answered
      exact .exchanged _
  | listen listener =>
      cases answered
      exact .exchanged _
  | run =>
      obtain ⟨⟨result, middle⟩, ran, same⟩ := Option.map_eq_some_iff.1 answered
      cases same
      exact leaves_of_run ran _ _ after.channel
  | sendLine line =>
      cases answered
      rw [sendLine_eq]
      exact machine.leaves_enqueueAll (lineCodes line) _ _
  | runText =>
      obtain ⟨⟨result, middle⟩, ranText, same⟩ := Option.map_eq_some_iff.1 answered
      cases same
      rcases runText_eq_some ranText with ⟨fault, ran, rfl⟩ | ⟨phase, before, ran, rfl, rfl⟩
      · exact leaves_of_run ran _ _ after.channel
      · exact leaves_of_run ran _ _ _

/--
A property of machines that is kept by starting a program, by any change of the channel, and by each
run that returns, is kept by every history.
-/
theorem History.invariant
    (holds : Machine → Prop)
    (started : ∀ (machine : Machine) program, holds (machine.start program))
    (exchanged : ∀ (machine : Machine) channel, holds machine → holds (machine.withChannel channel))
    (returned : ∀ (machine : Machine) result after, holds machine →
      machine.phase.isStopped = false → machine.Returns result after → holds after)
    {machine after : Machine} {calls : List (Call × Reply)} {events : List Channel.Event}
    (history : History machine calls events after) (initially : holds machine) :
    holds after := by
  induction history with
  | nil machine => exact initially
  | cons answered further ih =>
      apply ih
      cases leaves_of_answer answered with
      | exchanged channel => exact exchanged _ channel initially
      | started program loads => exact started _ program
      | returned channel live returns =>
          exact exchanged _ channel (returned _ _ _ initially live returns)

/-! ## What the channel undergoes -/

theorem turnEvents_of_error {machine : Machine} {fault : Fault}
    (unfetched : machine.fetch = .error fault) : machine.turnEvents = [] := by
  unfold turnEvents
  rw [unfetched]

theorem turnEvents_of_input
    {machine : Machine} {target : TargetMode} {value : Int} {rest : List Int}
    (fetched : machine.fetch = .ok (.input target))
    (pending : machine.channel.input = value :: rest) :
    machine.turnEvents = [.dequeued value] := by
  unfold turnEvents
  simp only [fetched, Channel.dequeue, pending]
  rfl

theorem turnEvents_of_starved
    {machine : Machine} {target : TargetMode} (fetched : machine.fetch = .ok (.input target))
    (empty : machine.channel.input = []) : machine.turnEvents = [] := by
  unfold turnEvents
  simp only [fetched, Channel.dequeue, empty]
  rfl

/-- An input instruction takes the first value of the input. -/
theorem undergoes_input
    {machine : Machine} {target : TargetMode} {value : Int} {rest : List Int}
    (fetched : machine.fetch = .ok (.input target))
    (pending : machine.channel.input = value :: rest) :
    Channel.Undergoes machine.channel machine.turnEvents
      { machine.channel with input := rest } := by
  rw [turnEvents_of_input fetched pending]
  exact .one (Channel.dequeue_eq_some_iff.2 ⟨rest, pending, rfl⟩)

/-- Where an instruction takes effect, the channel undergoes what the instruction does. -/
theorem undergoes_of_effect
    {machine after : Machine} {instruction : Instruction}
    (fetched : machine.fetch = .ok instruction) (effect : Effect machine instruction after) :
    Channel.Undergoes machine.channel machine.turnEvents after.channel := by
  cases effect with
  | input pending found => exact undergoes_input fetched pending
  | output read =>
      simp only [turnEvents, fetched, read]
      exact .one rfl
  | combine readLeft readRight found =>
      simp only [turnEvents, fetched]
      exact .nil _
  | pass read fails =>
      simp only [turnEvents, fetched]
      exact .nil _
  | adjustBase read =>
      simp only [turnEvents, fetched]
      exact .nil _

/-- Where an instruction misses an address, it has taken its value or done nothing. -/
theorem undergoes_of_spent
    {machine after : Machine} {instruction : Instruction} {fault : Fault}
    (fetched : machine.fetch = .ok instruction)
    (named : Names fault (machine.references instruction))
    (spent : Spent machine instruction after) :
    Channel.Undergoes machine.channel machine.turnEvents after.channel := by
  cases spent with
  | input pending => exact undergoes_input fetched pending
  | other other =>
      simp only [turnEvents, fetched]
      cases instruction with
      | input target => cases other
      | output mode =>
          cases read : machine.operand 0 mode with
          | error cause =>
              simp only [read]
              exact .nil _
          | ok value =>
              -- an operand that was read was examined, and is no number that the fault can name
              obtain ⟨number, -, first⟩ := named
              have inside := firstOutside?_of_operand_ok read
              have examined : Address.firstOutside? (machine.reference? 0 mode).toList =
                  some number := first
              rw [inside] at examined
              cases examined
      | combine combiner left right target => exact .nil _
      | jump condition value destination => exact .nil _
      | adjustBase mode => exact .nil _
      | halt => exact .nil _

/-- In a turn the channel undergoes what the instruction does with values. -/
theorem undergoes_turn {machine : Machine} (started : machine.phase = .running) :
    Channel.Undergoes machine.channel machine.turnEvents machine.turn.reached.channel := by
  have turns := turnsTo_turn started
  generalize machine.turn = progress at turns
  cases turns with
  | undecodable unfetched =>
      rw [turnEvents_of_error unfetched]
      exact .nil _
  | missed fetched named spends =>
      have undergoes := undergoes_of_spent fetched named spends
      exact undergoes
  | advanced fetched effect inside =>
      have undergoes := undergoes_of_effect fetched effect
      exact undergoes
  | overran fetched effect outside =>
      have undergoes := undergoes_of_effect fetched effect
      exact undergoes
  | jumped fetched readValue holds readGoal found =>
      unfold turnEvents
      rw [fetched]
      exact .nil _
  | waited fetched empty =>
      rw [turnEvents_of_starved fetched empty]
      exact .nil _
  | halted fetched =>
      unfold turnEvents
      rw [fetched]
      exact .nil _

/-- In any number of turns the channel undergoes what the instructions do with values. -/
theorem undergoes_progress {machine : Machine} (started : machine.phase = .running) (count : Nat) :
    Channel.Undergoes machine.channel (machine.loopEvents count)
      (machine.progress count).reached.channel := by
  induction count generalizing machine with
  | zero => exact .nil _
  | succ count ih =>
      have first := undergoes_turn started
      rw [progress_succ, loopEvents]
      cases turned : machine.turn with
      | running next =>
          rw [turned] at first
          exact first.append (ih (phase_of_turn_running turned))
      | stopped result last =>
          rw [turned] at first
          rw [List.append_nil]
          exact first

theorem undergoes_run
    {machine after : Machine} {limit : Nat} {result : Except Fault Phase}
    (ran : machine.run limit = some (result, after)) :
    Channel.Undergoes machine.channel (machine.runEvents limit) after.channel := by
  unfold runEvents
  cases stopped : machine.phase.isStopped with
  | true =>
      rw [run_of_isStopped stopped] at ran
      cases ran
      exact .nil _
  | false =>
      have entered : machine.resume.phase = .running := rfl
      have undergoes := undergoes_progress entered limit
      rw [run_eq_answer? stopped] at ran
      cases progressed : machine.resume.progress limit with
      | running current =>
          rw [progressed] at ran
          cases ran
      | stopped outcome last =>
          rw [progressed] at ran undergoes
          cases ran
          exact undergoes

theorem undergoes_of_answer
    {machine after : Machine} {limit : Nat} {call : Call} {reply : Reply}
    (answered : machine.answer? limit call = some (reply, after)) :
    Channel.Undergoes machine.channel
      (machine.instructionEvents limit call ++ call.ownerEvents reply) after.channel := by
  cases call with
  | load text =>
      cases answered
      rcases machine.load_eq text with ⟨fault, -, refused⟩ | ⟨program, -, loaded⟩
      · rw [refused]
        exact .nil _
      · rw [loaded]
        exact .one rfl
  | start program =>
      cases answered
      exact .one rfl
  | enqueue value =>
      cases answered
      rcases machine.enqueueAll_eq [value] with ⟨-, refused⟩ | ⟨-, accepted⟩
      · rw [enqueue, refused]
        exact .nil _
      · rw [enqueue, accepted]
        exact .enqueueAll _ [value]
  | drain =>
      cases answered
      exact .one rfl
  | listen listener =>
      cases answered
      exact .one rfl
  | run =>
      obtain ⟨⟨result, middle⟩, ran, same⟩ := Option.map_eq_some_iff.1 answered
      cases same
      have owned : Call.run.ownerEvents (.phase result) = [] := rfl
      rw [owned, List.append_nil]
      exact undergoes_run ran
  | sendLine line =>
      cases answered
      rcases machine.enqueueAll_eq (lineCodes line) with ⟨-, refused⟩ | ⟨-, accepted⟩
      · rw [sendLine_eq, refused]
        exact .nil _
      · rw [sendLine_eq, accepted]
        exact .enqueueAll _ (lineCodes line)
  | runText =>
      obtain ⟨⟨result, middle⟩, ranText, same⟩ := Option.map_eq_some_iff.1 answered
      cases same
      rcases runText_eq_some ranText with ⟨fault, ran, rfl⟩ | ⟨phase, before, ran, rfl, rfl⟩
      · have owned : Call.runText.ownerEvents (.transcript (.error fault)) = [] := rfl
        rw [owned, List.append_nil]
        exact undergoes_run ran
      · exact (undergoes_run ran).append (.one rfl)

theorem History.undergoes
    {machine after : Machine} {calls : List (Call × Reply)} {events : List Channel.Event}
    (history : History machine calls events after) :
    Channel.Undergoes machine.channel events after.channel := by
  induction history with
  | nil machine => exact .nil _
  | cons answered further ih => exact (undergoes_of_answer answered).append ih

end Machine

end Intcode
