import Intcode.Proofs.History.Calls

/-!
# Accounts

No value is lost, duplicated or reordered.  Whatever calls its owner makes, the channel of a machine
balances with the events that it underwent; an input instruction takes one value or waits, and a run
that faults leaves in the channel all that it put out.
-/

namespace Intcode

namespace Machine

open Channel Event

/-! ## What the instructions add to the output -/

theorem ofInstruction_of_mem_turnEvents
    {machine : Machine} {event : Event} (listed : event ∈ machine.turnEvents) :
    event.OfInstruction := by
  unfold turnEvents at listed
  split at listed
  · obtain ⟨value, -, rfl⟩ := List.mem_map.1 listed
    exact .dequeued value
  · obtain ⟨value, -, rfl⟩ := List.mem_map.1 listed
    exact .emitted value
  · cases listed

theorem ofInstruction_of_mem_loopEvents
    {machine : Machine} {count : Nat} {event : Event} (listed : event ∈ machine.loopEvents count) :
    event.OfInstruction := by
  induction count generalizing machine with
  | zero => cases listed
  | succ count ih =>
      rw [loopEvents] at listed
      rcases List.mem_append.1 listed with first | later
      · exact ofInstruction_of_mem_turnEvents first
      · cases turned : machine.turn with
        | running next =>
            rw [turned] at later
            exact ih later
        | stopped result last =>
            rw [turned] at later
            cases later

theorem ofInstruction_of_mem_runEvents
    {machine : Machine} {limit : Nat} {event : Event} (listed : event ∈ machine.runEvents limit) :
    event.OfInstruction := by
  unfold runEvents at listed
  split at listed
  · cases listed
  · exact ofInstruction_of_mem_loopEvents listed

/-- A run adds to the output what its output instructions put out. -/
theorem output_of_run
    {machine after : Machine} {limit : Nat} {result : Except Fault Phase}
    (ran : machine.run limit = some (result, after)) :
    after.channel.output.toList =
      machine.channel.output.toList ++ valuesEmitted (machine.runEvents limit) :=
  (undergoes_run ran).output_of_instructions fun _ => ofInstruction_of_mem_runEvents

/-- A run that faults leaves all of its output in the channel, with values and with text. -/
theorem output_of_fault
    {machine after : Machine} {limit : Nat} {fault : Fault}
    (faulted : machine.run limit = some (.error fault, after) ∨
      machine.runText limit = some (.error fault, after)) :
    after.channel.output.toList =
      machine.channel.output.toList ++ valuesEmitted (machine.runEvents limit) := by
  rcases faulted with ran | ranText
  · exact output_of_run ran
  · rcases runText_eq_some ranText with ⟨cause, ran, -⟩ | ⟨phase, middle, -, answered, -⟩
    · exact output_of_run ran
    · cases answered

/-! ## What an input instruction takes -/

/-- An input instruction waits and takes nothing, or does not wait and takes exactly one value, the
first of the input. -/
inductive TakesInput (machine : Machine) : Prop where
  | nothing (empty : machine.channel.input = []) (events : machine.turnEvents = [])
      (waits : machine.turn.Waits)
      (kept : machine.turn.reached.channel = machine.channel)
  | first {value : Int} {rest : List Int} (pending : machine.channel.input = value :: rest)
      (events : machine.turnEvents = [.dequeued value]) (goes : ¬ machine.turn.Waits)
      (taken : machine.turn.reached.channel = { machine.channel with input := rest })

theorem takesInput_of_fetch
    {machine : Machine} {target : TargetMode} (started : machine.phase = .running)
    (fetched : machine.fetch = .ok (.input target)) : machine.TakesInput := by
  cases pending : machine.channel.input with
  | nil =>
      refine .nothing pending (turnEvents_of_starved fetched pending) ?_ ?_
      · rw [turn_of_empty started fetched pending]
        trivial
      · rw [turn_of_empty started fetched pending]
        rfl
  | cons value rest =>
      refine .first pending (turnEvents_of_input fetched pending) ?_ ?_
      · intro waits
        rw [turn_of_fetch started fetched] at waits
        have blocks : (machine.execute (.input target)).1 = .ok .block := waits_settle_iff.1 waits
        obtain ⟨-, empty⟩ := execute_eq_block_iff.1 blocks
        rw [pending] at empty
        cases empty
      · rw [turn_of_fetch started fetched, execute_input_of_cons pending]
        cases machine.target 0 target with
        | error fault => exact channel_reached_settle _ _ _
        | ok address => exact channel_reached_settle _ _ _

/-! ## The balance of a history -/

theorem History.balanced
    {machine : Machine} {calls : List (Call × Reply)} {events : List Channel.Event}
    (history : History empty calls events machine) : Balanced events machine.channel := by
  have balanced : Balanced ([] ++ events) machine.channel :=
    balanced_empty.of_undergoes history.undergoes
  exact balanced

/--
No value is lost, duplicated or reordered.  After any calls, and after any number of turns of a run
that follows, these hold.  Since a program was last loaded, the values that were accepted are those
that input instructions took and then those still queued, and the values that output instructions
put out are those that were drained and then those still queued.  Over all of the events, each value
that was put out was heard by all listeners that had subscribed by then, in their order, before the
next one; and so a listener heard what was put out after it had subscribed.  An input instruction
waits or takes one value.  A run that faults leaves all of its output queued.
-/
theorem values_accounted
    {machine : Machine} {calls : List (Call × Reply)} {events : List Channel.Event}
    (history : History empty calls events machine) :
    Balanced events machine.channel ∧
      (machine.phase.isStopped = false → ∀ count,
        Balanced (events ++ machine.resume.loopEvents count)
          (machine.resume.progress count).reached.channel) ∧
      (∀ name earlier later, events = earlier ++ .subscribed name :: later →
        name ∉ subscribers earlier → name ∉ subscribers later →
        heardBy name machine.channel.heard.toList = valuesEmitted later) ∧
      (∀ (before : Machine) target, before.phase = .running → before.fetch = .ok (.input target) →
        before.TakesInput) ∧
      ∀ limit fault after,
        machine.run limit = some (.error fault, after) ∨
          machine.runText limit = some (.error fault, after) →
        after.channel.output.toList =
          machine.channel.output.toList ++ valuesEmitted (machine.runEvents limit) := by
  have balanced := history.balanced
  refine ⟨balanced, ?_, ?_, ?_, ?_⟩
  · intro live count
    have started : machine.resume.phase = .running := rfl
    exact balanced.of_undergoes (undergoes_progress started count)
  · intro name earlier later split fresh once
    rw [balanced.heard, split]
    exact heardBy_of_subscribed_once fresh once
  · intro before target started fetched
    exact takesInput_of_fetch started fetched
  · intro limit fault after faulted
    exact output_of_fault faulted

/-- A program that puts out each value that it takes, and then meets a word without an opcode. -/
def echoes : Program :=
  ⟨[3, 9, 4, 9, 3, 9, 4, 9, 42, 0]⟩

/-- One listener hears both of the values, another only the second, which stays in the channel. -/
theorem values_accounted_echoes :
    ∃ calls events machine, History empty calls events machine ∧ machine.phase = .faulted ∧
      Balanced events machine.channel ∧
      valuesEnqueued (sinceCleared events) = [7, 8] ∧
      valuesDrained (sinceCleared events) ++ machine.channel.output.toList = [7, 8] ∧
      heardBy "left" machine.channel.heard.toList = [7, 8] ∧
      heardBy "right" machine.channel.heard.toList = [8] := by
  have answered : ∃ calls machine,
      empty.answers? [(0, .listen "left"), (0, .start echoes), (0, .enqueue 7), (3, .run),
          (0, .drain), (0, .listen "right"), (0, .enqueue 8), (3, .runText)] =
        some (calls,
          [.subscribed "left", .cleared, .enqueued 7, .dequeued 7, .emitted 7, .drained [7],
            .subscribed "right", .enqueued 8, .dequeued 8, .emitted 8], machine) ∧
        machine.phase = .faulted :=
    ⟨_, _, by rfl, by rfl⟩
  obtain ⟨calls, machine, answered, faulted⟩ := answered
  have history := history_of_answers answered
  obtain ⟨balanced, -, heard, -⟩ := values_accounted history
  have output := balanced.output
  refine ⟨calls, _, machine, history, faulted, balanced, rfl, ?_, ?_, ?_⟩
  · exact output.symm
  · exact heard "left" [] _ rfl (by decide) (by decide)
  · exact heard "right" [.subscribed "left", .cleared, .enqueued 7, .dequeued 7, .emitted 7,
      .drained [7]] _ rfl (by decide) (by decide)

end Machine

end Intcode
