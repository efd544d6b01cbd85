import Intcode.Proofs.Machine.Chunks

/-!
# The inside of a machine

What a machine does is settled by its inside: memory, registers, phase and input.  Its output, its
listeners and what they heard only face outwards.  Two machines that are the same inside come to the
same in a run of any length, and take and put out the same values on the way.
-/

namespace Intcode

namespace Channel

/-- A channel that has the values to take can make any exchange. -/
theorem Exchange.exists_after
    {taken rest : List Int} {before : Channel} (input : before.input = taken ++ rest)
    (emitted : List Int) :
    ∃ after, Exchange taken emitted before after ∧ after.input = rest := by
  have whole : Exchange (taken ++ []) (emitted ++ []) { before with input := taken ++ rest }
      { input := rest
        output := before.output ++ emitted.toArray
        listeners := before.listeners
        heard :=
          before.heard ++ (emitted.flatMap fun value =>
            before.listeners.map fun listener => (listener, value)).toArray } := by
    refine ⟨?_, ?_, rfl, ?_⟩ <;> simp
  have same : ({ before with input := taken ++ rest } : Channel) = before := by rw [← input]
  rw [List.append_nil, List.append_nil, same] at whole
  exact ⟨_, whole, rfl⟩

end Channel

namespace Progress

variable {fault machine : Type}

@[simp] theorem reached_map {other : Type} (change : machine → other)
    (progress : Progress fault machine) :
    (progress.map change).reached = change progress.reached := by
  cases progress <;> rfl

@[simp] theorem answer?_map {other : Type} (change : machine → other)
    (progress : Progress fault machine) :
    (progress.map change).answer? =
      progress.answer?.map fun answer => (answer.1, change answer.2) := by
  cases progress <;> rfl

end Progress

namespace Machine

/-- The machine with an empty output, without listeners, and with nothing heard. -/
def inside (machine : Machine) : Machine :=
  machine.withChannel { Channel.empty with input := machine.channel.input }

/-- The machine that a run has come to when it returns or its limit is used up. -/
def reach (limit : Nat) (machine : Machine) : Machine :=
  if machine.phase.isStopped then machine else (machine.resume.progress limit).reached

/-! ## The same inside -/

/-- Machines are equal at two channels when these are equal, and the machines differ at most in
their own channels. -/
theorem withChannel_eq_iff {first second : Machine} {channel other : Channel} :
    first.withChannel channel = second.withChannel other ↔
      second = first.withChannel second.channel ∧ channel = other := by
  constructor
  · intro same
    refine ⟨?_, congrArg Machine.channel same⟩
    have moved := congrArg (·.withChannel second.channel) same
    exact moved.symm
  · rintro ⟨moved, rfl⟩
    rw [moved, withChannel_withChannel]

/-- Machines are the same inside when they differ at most in channels with the same input. -/
theorem inside_eq_iff {first second : Machine} :
    first.inside = second.inside ↔
      second = first.withChannel second.channel ∧
        first.channel.input = second.channel.input := by
  rw [inside, inside, withChannel_eq_iff]
  refine and_congr_right fun _ => ⟨congrArg Channel.input, fun input => ?_⟩
  rw [input]

/-! ## Runs of machines that are the same inside -/

theorem reach_of_run
    {machine after : Machine} {limit : Nat} {result : Except Fault Phase}
    (ran : machine.run limit = some (result, after)) : machine.reach limit = after := by
  unfold reach
  cases stopped : machine.phase.isStopped with
  | true =>
      rw [run_of_isStopped stopped] at ran
      cases ran
      rfl
  | false =>
      rw [run_eq_answer? stopped] at ran
      cases progressed : machine.resume.progress limit with
      | running current =>
          rw [progressed] at ran
          cases ran
      | stopped outcome last =>
          rw [progressed] at ran
          cases ran
          rfl

/-- A run at another channel with the same input makes the same exchange with that channel. -/
theorem reach_withChannel (limit : Nat) (machine : Machine) :
    ∃ taken emitted,
      Channel.Exchange taken emitted machine.channel (machine.reach limit).channel ∧
        ∀ channel : Channel, channel.input = machine.channel.input →
          ∃ after, Channel.Exchange taken emitted channel after ∧
            after.input = (machine.reach limit).channel.input ∧
            (machine.withChannel channel).reach limit =
              (machine.reach limit).withChannel after ∧
            ((machine.withChannel channel).run limit).map Prod.fst =
              (machine.run limit).map Prod.fst := by
  cases stopped : machine.phase.isStopped with
  | true =>
      have reached : machine.reach limit = machine := reach_of_run (run_of_isStopped stopped limit)
      rw [reached]
      refine ⟨[], [], Channel.Exchange.nil_iff.2 rfl, fun channel input => ?_⟩
      have stopped' : (machine.withChannel channel).phase.isStopped = true := stopped
      refine ⟨channel, Channel.Exchange.nil_iff.2 rfl, input,
        reach_of_run (run_of_isStopped stopped' limit), ?_⟩
      rw [run_of_isStopped stopped, run_of_isStopped stopped']
      rfl
  | false =>
      have started : machine.resume.phase = .running := rfl
      obtain ⟨taken, emitted, trades⟩ := progress_trades started limit
      have reached : machine.reach limit = (machine.resume.progress limit).reached := by
        rw [reach, stopped]
        rfl
      have exchange : Channel.Exchange taken emitted machine.channel
          (machine.resume.progress limit).reached.channel := trades.exchange
      rw [reached]
      refine ⟨taken, emitted, exchange, fun channel input => ?_⟩
      have stopped' : (machine.withChannel channel).phase.isStopped = false := stopped
      rw [exchange.input] at input
      obtain ⟨after, exchanged, rest⟩ := Channel.Exchange.exists_after input emitted
      have framed : (machine.withChannel channel).resume.progress limit =
          (machine.resume.progress limit).map (·.withChannel after) :=
        trades.frame exchanged fun waits => rest.trans (trades.starved waits)
      refine ⟨after, exchanged, rest, ?_, ?_⟩
      · rw [reach, stopped', framed]
        exact Progress.reached_map _ _
      · rw [run_eq_answer? stopped, run_eq_answer? stopped', framed, Progress.answer?_map,
          Option.map_map]
        rfl

/--
Machines that are the same inside stay so in a run, which has the same result, and takes the same
values and puts out the same ones.
-/
theorem reach_of_inside
    {first second : Machine} (same : first.inside = second.inside) (limit : Nat) :
    (first.run limit).map Prod.fst = (second.run limit).map Prod.fst ∧
      (first.reach limit).inside = (second.reach limit).inside ∧
      ∃ taken emitted,
        Channel.Exchange taken emitted first.channel (first.reach limit).channel ∧
          Channel.Exchange taken emitted second.channel (second.reach limit).channel := by
  obtain ⟨moved, input⟩ := inside_eq_iff.1 same
  obtain ⟨taken, emitted, exchange, elsewhere⟩ := first.reach_withChannel limit
  obtain ⟨after, exchanged, rest, reached, results⟩ := elsewhere second.channel input.symm
  rw [← moved] at reached results
  refine ⟨results.symm, ?_, taken, emitted, exchange, ?_⟩
  · rw [reached]
    exact inside_eq_iff.2 ⟨rfl, rest.symm⟩
  · rw [reached]
    exact exchanged

end Machine

end Intcode
