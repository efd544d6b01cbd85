import Intcode.Proofs.Channel.Outward
import Intcode.Proofs.History.Accounts
import Intcode.Proofs.Machine.Inside

/-!
# Passages

A passage is a call that is made of a machine, whether it returns or not.  A schedule of calls leads
a machine through passages up to the first call that does not return within its limit.
-/

namespace Intcode

namespace Machine

/-- A call, with a limit on its cycles, that is made of a machine. -/
structure Passage where
  before : Machine
  limit : Nat
  call : Call

namespace Passage

def reply (passage : Passage) : Option Reply :=
  (passage.before.answer? passage.limit passage.call).map Prod.fst

def returns (passage : Passage) : Bool :=
  passage.reply.isSome

/-- The machine that the call leaves, or that its run has come to when the limit is used up. -/
def after (passage : Passage) : Machine :=
  match passage.before.answer? passage.limit passage.call with
  | some (_, after) => after
  | none => passage.before.reach passage.limit

def events (passage : Passage) : List Channel.Event :=
  passage.before.instructionEvents passage.limit passage.call ++
    passage.reply.toList.flatMap passage.call.ownerEvents

def emitted (passage : Passage) : List Int :=
  Channel.Event.valuesEmitted (passage.before.instructionEvents passage.limit passage.call)

def heard (passage : Passage) : List (String × Int) :=
  passage.after.channel.heard.toList.drop passage.before.channel.heard.size

theorem reply_of_answer
    {passage : Passage} {reply : Reply} {after : Machine}
    (answered : passage.before.answer? passage.limit passage.call = some (reply, after)) :
    passage.reply = some reply := by
  unfold Passage.reply
  rw [answered]
  rfl

theorem after_of_answer
    {passage : Passage} {reply : Reply} {after : Machine}
    (answered : passage.before.answer? passage.limit passage.call = some (reply, after)) :
    passage.after = after := by
  unfold Passage.after
  rw [answered]

theorem returns_of_answer
    {passage : Passage} {reply : Reply} {after : Machine}
    (answered : passage.before.answer? passage.limit passage.call = some (reply, after)) :
    passage.returns = true := by
  rw [returns, reply_of_answer answered]
  rfl

theorem reply_of_unanswered
    {passage : Passage}
    (unanswered : passage.before.answer? passage.limit passage.call = none) :
    passage.reply = none := by
  unfold Passage.reply
  rw [unanswered]
  rfl

theorem after_of_unanswered
    {passage : Passage}
    (unanswered : passage.before.answer? passage.limit passage.call = none) :
    passage.after = passage.before.reach passage.limit := by
  unfold Passage.after
  rw [unanswered]

end Passage

/-! ## Runs as passages -/

theorem undergoes_reach (limit : Nat) (machine : Machine) :
    Channel.Undergoes machine.channel (machine.runEvents limit) (machine.reach limit).channel := by
  unfold runEvents reach
  cases machine.phase.isStopped with
  | true => exact .nil _
  | false =>
      have started : machine.resume.phase = .running := rfl
      have undergoes := undergoes_progress started limit
      exact undergoes

/-- What a run puts out is what it emits in its exchange with the channel. -/
theorem valuesEmitted_runEvents
    {machine : Machine} {limit : Nat} {taken emitted : List Int}
    (exchange : Channel.Exchange taken emitted machine.channel (machine.reach limit).channel) :
    Channel.Event.valuesEmitted (machine.runEvents limit) = emitted := by
  have output := (undergoes_reach limit machine).output_of_instructions
    fun _ => ofInstruction_of_mem_runEvents
  rw [exchange.output] at output
  exact (List.append_cancel_left output).symm

def textAnswer (reached : Machine) : Except Fault Phase → Reply × Machine
  | .error fault => (.transcript (.error fault), reached)
  | .ok phase => (.transcript (.ok ⟨reached.drain.1, phase⟩), reached.drain.2)

theorem answer?_run (limit : Nat) (machine : Machine) :
    machine.answer? limit .run =
      ((machine.run limit).map Prod.fst).map fun result =>
        (.phase result, machine.reach limit) := by
  unfold answer?
  cases ran : machine.run limit with
  | none => rfl
  | some outcome =>
      rw [reach_of_run ran]
      rfl

theorem answer?_runText (limit : Nat) (machine : Machine) :
    machine.answer? limit .runText =
      ((machine.run limit).map Prod.fst).map (machine.reach limit).textAnswer := by
  unfold answer? runText
  rcases ran : machine.run limit with _ | ⟨fault | phase, last⟩
  · rfl
  · rw [reach_of_run ran]
    rfl
  · rw [reach_of_run ran]
    rfl

namespace Passage

theorem reply_run (limit : Nat) (machine : Machine) :
    (Passage.mk machine limit .run).reply = ((machine.run limit).map Prod.fst).map .phase := by
  unfold Passage.reply
  rw [answer?_run]
  cases machine.run limit <;> rfl

theorem after_run (limit : Nat) (machine : Machine) :
    (Passage.mk machine limit .run).after = machine.reach limit := by
  unfold Passage.after
  rw [answer?_run]
  cases machine.run limit <;> rfl

theorem reply_runText (limit : Nat) (machine : Machine) :
    (Passage.mk machine limit .runText).reply =
      ((machine.run limit).map Prod.fst).map fun result =>
        ((machine.reach limit).textAnswer result).1 := by
  unfold Passage.reply
  rw [answer?_runText]
  cases machine.run limit <;> rfl

theorem after_runText (limit : Nat) (machine : Machine) :
    (Passage.mk machine limit .runText).after =
      match (machine.run limit).map Prod.fst with
      | some result => ((machine.reach limit).textAnswer result).2
      | none => machine.reach limit := by
  unfold Passage.after
  rw [answer?_runText]
  cases machine.run limit <;> rfl

end Passage

/-- Only a run can go unanswered. -/
theorem events_of_unanswered
    {machine : Machine} {limit : Nat} {call : Call}
    (unanswered : machine.answer? limit call = none) :
    machine.instructionEvents limit call = machine.runEvents limit := by
  cases call with
  | run => rfl
  | runText => rfl
  | load text => cases unanswered
  | start program => cases unanswered
  | enqueue value => cases unanswered
  | drain => cases unanswered
  | listen listener => cases unanswered
  | sendLine line => cases unanswered

theorem Passage.undergoes (passage : Passage) :
    Channel.Undergoes passage.before.channel passage.events passage.after.channel := by
  unfold events
  cases answered : passage.before.answer? passage.limit passage.call with
  | none =>
      rw [reply_of_unanswered answered, after_of_unanswered answered,
        events_of_unanswered answered]
      have undergoes := undergoes_reach passage.limit passage.before
      rw [← List.append_nil (passage.before.runEvents passage.limit)] at undergoes
      exact undergoes
  | some outcome =>
      obtain ⟨reply, after⟩ := outcome
      rw [reply_of_answer answered, after_of_answer answered]
      have undergoes := undergoes_of_answer answered
      rw [← List.append_nil (passage.call.ownerEvents reply)] at undergoes
      exact undergoes

theorem ofInstruction_of_mem_instructionEvents
    {machine : Machine} {limit : Nat} {call : Call} {event : Channel.Event}
    (listed : event ∈ machine.instructionEvents limit call) : event.OfInstruction := by
  cases call with
  | run => exact ofInstruction_of_mem_runEvents listed
  | runText => exact ofInstruction_of_mem_runEvents listed
  | load text => cases listed
  | start program => cases listed
  | enqueue value => cases listed
  | drain => cases listed
  | listen listener => cases listed
  | sendLine line => cases listed

/-- Nothing is heard of what the owner brings about. -/
theorem hearings_ownerEvents (listeners : List String) (call : Call) (reply : Reply) :
    Channel.Event.hearings listeners (call.ownerEvents reply) = [] := by
  unfold Call.ownerEvents
  split
  · rfl
  · rfl
  · rfl
  · next line =>
      induction lineCodes line with
      | nil => rfl
      | cons code rest ih => exact ih
  · rfl
  · rfl
  · rfl
  · rfl

/-- In a passage each listener hears each value that the program puts out. -/
theorem Passage.heard_eq (passage : Passage) :
    passage.heard =
      passage.emitted.flatMap fun value =>
        passage.before.channel.listeners.map fun listener => (listener, value) := by
  have owned : ∀ listeners,
      Channel.Event.hearings listeners (passage.reply.toList.flatMap passage.call.ownerEvents) =
        [] := by
    intro listeners
    cases passage.reply with
    | none => rfl
    | some reply =>
        rw [Option.toList_some, List.flatMap_cons, List.flatMap_nil, List.append_nil]
        exact hearings_ownerEvents listeners _ _
  unfold heard
  rw [passage.undergoes.heard, ← Array.length_toList, List.drop_left, events,
    Channel.Event.hearings_append, owned, List.append_nil]
  exact Channel.Event.hearings_of_instructions
    (fun _ => ofInstruction_of_mem_instructionEvents) _

/-- Machines that are the same inside put out the same values in the course of a call. -/
theorem emitted_of_inside
    {first second : Machine} (same : first.inside = second.inside) (limit : Nat) (call : Call) :
    (Passage.mk first limit call).emitted = (Passage.mk second limit call).emitted := by
  obtain ⟨-, -, taken, emitted, exchange, exchange'⟩ := reach_of_inside same limit
  have run : Channel.Event.valuesEmitted (first.runEvents limit) =
      Channel.Event.valuesEmitted (second.runEvents limit) := by
    rw [valuesEmitted_runEvents exchange, valuesEmitted_runEvents exchange']
  cases call with
  | run => exact run
  | runText => exact run
  | load text => rfl
  | start program => rfl
  | enqueue value => rfl
  | drain => rfl
  | listen listener => rfl
  | sendLine line => rfl

/-! ## Schedules -/

/-- The passages of a machine through a schedule, as far as the calls return. -/
def passages : List (Nat × Call) → Machine → List Passage
  | [], _ => []
  | (limit, call) :: rest, machine =>
      ⟨machine, limit, call⟩ ::
        if (Passage.mk machine limit call).returns then
          passages rest (Passage.mk machine limit call).after
        else
          []

def arrive : List (Nat × Call) → Machine → Machine
  | [], machine => machine
  | (limit, call) :: rest, machine =>
      if (Passage.mk machine limit call).returns then
        arrive rest (Passage.mk machine limit call).after
      else
        (Passage.mk machine limit call).after

def scheduleEvents (schedule : List (Nat × Call)) (machine : Machine) : List Channel.Event :=
  (machine.passages schedule).flatMap Passage.events

section Cons

variable {machine : Machine} {limit : Nat} {call : Call}

theorem passages_of_returns
    (returns : (Passage.mk machine limit call).returns = true) (rest : List (Nat × Call)) :
    machine.passages ((limit, call) :: rest) =
      ⟨machine, limit, call⟩ :: (Passage.mk machine limit call).after.passages rest := by
  rw [passages, if_pos returns]

theorem passages_of_not_returns
    (returns : (Passage.mk machine limit call).returns = false) (rest : List (Nat × Call)) :
    machine.passages ((limit, call) :: rest) = [⟨machine, limit, call⟩] := by
  rw [passages, returns]
  rfl

theorem arrive_of_returns
    (returns : (Passage.mk machine limit call).returns = true) (rest : List (Nat × Call)) :
    machine.arrive ((limit, call) :: rest) =
      (Passage.mk machine limit call).after.arrive rest := by
  rw [arrive, if_pos returns]

theorem arrive_of_not_returns
    (returns : (Passage.mk machine limit call).returns = false) (rest : List (Nat × Call)) :
    machine.arrive ((limit, call) :: rest) = (Passage.mk machine limit call).after := by
  rw [arrive, returns]
  rfl

end Cons

theorem undergoes_schedule (schedule : List (Nat × Call)) (machine : Machine) :
    Channel.Undergoes machine.channel (machine.scheduleEvents schedule)
      (machine.arrive schedule).channel := by
  induction schedule generalizing machine with
  | nil => exact .nil _
  | cons entry rest ih =>
      obtain ⟨limit, call⟩ := entry
      have first := Passage.undergoes ⟨machine, limit, call⟩
      unfold scheduleEvents
      cases returns : (Passage.mk machine limit call).returns with
      | true =>
          rw [passages_of_returns returns, arrive_of_returns returns, List.flatMap_cons]
          exact first.append (ih _)
      | false =>
          rw [passages_of_not_returns returns, arrive_of_not_returns returns, List.flatMap_cons]
          exact first.append (.nil _)

end Machine

end Intcode
