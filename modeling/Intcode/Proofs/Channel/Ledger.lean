import Mathlib.Data.List.DropRight
import Intcode.Channel

/-!
# The ledger of a channel

The events of a channel, written down in order, account for each value in it.  Since the last time
that the channel was cleared, what was enqueued is what was dequeued and then what is still queued,
and what was emitted is what was drained and then what is still to be drained.  Over all of the
events, each value was heard by the listeners that had subscribed by then, one after the other.
-/

namespace Intcode

namespace Channel

theorem dequeue_eq_some_iff {before after : Channel} {value : Int} :
    before.dequeue = (some value, after) ↔
      ∃ rest, before.input = value :: rest ∧ after = { before with input := rest } := by
  unfold dequeue
  cases pending : before.input with
  | nil => exact ⟨nofun, nofun⟩
  | cons first rest =>
      constructor
      · intro taken
        cases taken
        exact ⟨rest, rfl, rfl⟩
      · rintro ⟨rest, same, rfl⟩
        cases same
        rfl

inductive Event where
  | cleared
  | subscribed (listener : String)
  | enqueued (value : Int)
  | dequeued (value : Int)
  | emitted (value : Int)
  | drained (values : List Int)
  deriving DecidableEq, Repr

def Event.Turns (before after : Channel) : Event → Prop
  | cleared => after = before.clear
  | subscribed listener => after = before.subscribe listener
  | enqueued value => after = before.enqueue value
  | dequeued value => before.dequeue = (some value, after)
  | emitted value => after = before.emit value
  | drained values => before.drain = (values, after)

/-- Events in order turn one channel into another. -/
inductive Undergoes : Channel → List Event → Channel → Prop where
  | nil (channel : Channel) : Undergoes channel [] channel
  | cons {before middle after : Channel} {event : Event} {events : List Event}
      (first : event.Turns before middle) (further : Undergoes middle events after) :
      Undergoes before (event :: events) after

namespace Undergoes

theorem one {before after : Channel} {event : Event} (turns : event.Turns before after) :
    Undergoes before [event] after :=
  .cons turns (.nil after)

theorem append
    {before middle after : Channel} {first second : List Event}
    (undergoes : Undergoes before first middle) (further : Undergoes middle second after) :
    Undergoes before (first ++ second) after := by
  induction undergoes with
  | nil channel => exact further
  | cons turns rest ih => exact .cons turns (ih further)

theorem enqueueAll (channel : Channel) (values : List Int) :
    Undergoes channel (values.map .enqueued) (channel.enqueueAll values) := by
  induction values generalizing channel with
  | nil =>
      rw [enqueueAll_nil]
      exact .nil channel
  | cons value rest ih =>
      have enqueued := ih (channel.enqueue value)
      rw [enqueue, enqueueAll_enqueueAll] at enqueued
      exact .cons rfl enqueued

end Undergoes

/-! ## Entries of the ledger -/

namespace Event

inductive OfInstruction : Event → Prop where
  | dequeued (value : Int) : OfInstruction (dequeued value)
  | emitted (value : Int) : OfInstruction (emitted value)

def sinceCleared (events : List Event) : List Event :=
  events.rtakeWhile (· ≠ cleared)

def subscribers (events : List Event) : List String :=
  events.filterMap fun
    | subscribed listener => some listener
    | _ => none

def valuesEnqueued (events : List Event) : List Int :=
  events.filterMap fun
    | enqueued value => some value
    | _ => none

def valuesDequeued (events : List Event) : List Int :=
  events.filterMap fun
    | dequeued value => some value
    | _ => none

def valuesEmitted (events : List Event) : List Int :=
  events.filterMap fun
    | emitted value => some value
    | _ => none

def valuesDrained (events : List Event) : List Int :=
  events.flatMap fun
    | drained values => values
    | _ => []

/-- The calls of listeners that events call for, when some listeners have subscribed before: each
value that is emitted goes to all listeners that have subscribed by then, in their order. -/
def hearings : List String → List Event → List (String × Int)
  | _, [] => []
  | listeners, subscribed listener :: rest => hearings (listeners ++ [listener]) rest
  | listeners, emitted value :: rest =>
      listeners.map (fun listener => (listener, value)) ++ hearings listeners rest
  | listeners, cleared :: rest => hearings listeners rest
  | listeners, enqueued _ :: rest => hearings listeners rest
  | listeners, dequeued _ :: rest => hearings listeners rest
  | listeners, drained _ :: rest => hearings listeners rest

def heardBy (name : String) (calls : List (String × Int)) : List Int :=
  (calls.filter fun call => call.1 = name).map (·.2)

theorem sinceCleared_append_cleared (events : List Event) :
    sinceCleared (events ++ [cleared]) = [] := by
  simp [sinceCleared]

theorem sinceCleared_append
    {event : Event} (kept : event ≠ cleared) (events : List Event) :
    sinceCleared (events ++ [event]) = sinceCleared events ++ [event] := by
  simp [sinceCleared, kept]

theorem hearings_append (listeners : List String) (first second : List Event) :
    hearings listeners (first ++ second) =
      hearings listeners first ++ hearings (listeners ++ subscribers first) second := by
  induction first generalizing listeners with
  | nil => simp [hearings, subscribers]
  | cons event rest ih =>
      cases event with
      | subscribed listener => simp [hearings, subscribers, ih]
      | emitted value => simp [hearings, subscribers, ih]
      | cleared => simp [hearings, subscribers, ih]
      | enqueued value => simp [hearings, subscribers, ih]
      | dequeued value => simp [hearings, subscribers, ih]
      | drained values => simp [hearings, subscribers, ih]

theorem heardBy_append (name : String) (first second : List (String × Int)) :
    heardBy name (first ++ second) = heardBy name first ++ heardBy name second := by
  simp [heardBy]

/-- A value is heard under a name as often as that name has subscribed. -/
theorem heardBy_map (name : String) (listeners : List String) (value : Int) :
    heardBy name (listeners.map fun listener => (listener, value)) =
      List.replicate (listeners.count name) value := by
  induction listeners with
  | nil => rfl
  | cons listener rest ih =>
      by_cases same : listener = name
      · subst same
        simpa [heardBy, List.replicate_succ] using ih
      · simpa [heardBy, same] using ih

/-- While a name does not subscribe, each value is heard under it as often as it had subscribed. -/
theorem heardBy_hearings
    {name : String} {listeners : List String} {events : List Event}
    (absent : name ∉ subscribers events) :
    heardBy name (hearings listeners events) =
      (valuesEmitted events).flatMap fun value =>
        List.replicate (listeners.count name) value := by
  induction events generalizing listeners with
  | nil => rfl
  | cons event rest ih =>
      cases event with
      | subscribed listener =>
          have apart : listener ≠ name ∧ name ∉ subscribers rest := by
            simpa [subscribers, eq_comm] using absent
          have counted : (listeners ++ [listener]).count name = listeners.count name := by
            simp [apart.1]
          rw [← counted]
          exact ih apart.2
      | emitted value =>
          simp only [hearings, heardBy_append, heardBy_map]
          rw [ih absent]
          rfl
      | cleared => exact ih absent
      | enqueued value => exact ih absent
      | dequeued value => exact ih absent
      | drained values => exact ih absent

/-- A listener that subscribes once, under a name of its own, hears what is emitted from then on. -/
theorem heardBy_of_subscribed_once
    {name : String} {earlier later : List Event} (fresh : name ∉ subscribers earlier)
    (once : name ∉ subscribers later) :
    heardBy name (hearings [] (earlier ++ subscribed name :: later)) = valuesEmitted later := by
  have unheard : heardBy name (hearings [] earlier) = [] := by
    rw [heardBy_hearings fresh]
    simp
  have counted : (subscribers earlier ++ [name]).count name = 1 := by
    simp [List.count_eq_zero_of_not_mem fresh]
  rw [hearings_append, heardBy_append, unheard]
  simp only [List.nil_append, hearings]
  rw [heardBy_hearings once, counted]
  simp

end Event

/-- Instructions only ever add to the output, and what they emit is all that they add. -/
theorem Undergoes.output_of_instructions
    {before after : Channel} {events : List Event} (undergoes : Undergoes before events after)
    (instructions : ∀ event ∈ events, event.OfInstruction) :
    after.output.toList = before.output.toList ++ Event.valuesEmitted events := by
  induction undergoes with
  | nil channel => exact (List.append_nil _).symm
  | @cons before middle after event events turns further ih =>
      have rest := ih fun later listed => instructions later (List.mem_cons_of_mem _ listed)
      cases instructions event List.mem_cons_self with
      | dequeued value =>
          obtain ⟨left, -, rfl⟩ := dequeue_eq_some_iff.1 turns
          exact rest
      | emitted value =>
          cases turns
          rw [rest]
          simp [emit, Event.valuesEmitted]

/-! ## The balance -/

open Event

/-- A channel balances with the events that led to it. -/
structure Balanced (events : List Event) (channel : Channel) : Prop where
  input :
    valuesEnqueued (sinceCleared events) = valuesDequeued (sinceCleared events) ++ channel.input
  output :
    valuesEmitted (sinceCleared events) =
      valuesDrained (sinceCleared events) ++ channel.output.toList
  listeners : channel.listeners = subscribers events
  heard : channel.heard.toList = hearings [] events

theorem balanced_empty : Balanced [] empty :=
  ⟨rfl, rfl, rfl, rfl⟩

/-- An event other than clearing keeps the balance when its own entries balance. -/
theorem Balanced.append
    {events : List Event} {event : Event} {before after : Channel}
    (balanced : Balanced events before) (kept : event ≠ cleared)
    (input : before.input ++ valuesEnqueued [event] = valuesDequeued [event] ++ after.input)
    (output :
      before.output.toList ++ valuesEmitted [event] =
        valuesDrained [event] ++ after.output.toList)
    (listeners : after.listeners = before.listeners ++ subscribers [event])
    (heard : after.heard.toList = before.heard.toList ++ hearings before.listeners [event]) :
    Balanced (events ++ [event]) after where
  input := by
    rw [sinceCleared_append kept, valuesEnqueued, valuesDequeued, List.filterMap_append,
      List.filterMap_append, ← valuesEnqueued, ← valuesDequeued, balanced.input]
    simp only [List.append_assoc]
    exact congrArg _ input
  output := by
    rw [sinceCleared_append kept, valuesEmitted, valuesDrained, List.filterMap_append,
      List.flatMap_append, ← valuesEmitted, ← valuesDrained, balanced.output]
    simp only [List.append_assoc]
    exact congrArg _ output
  listeners := by
    rw [listeners, balanced.listeners, subscribers, subscribers, subscribers,
      List.filterMap_append]
  heard := by
    rw [heard, hearings_append, balanced.heard, balanced.listeners]
    rfl

theorem Balanced.step
    {events : List Event} {event : Event} {before after : Channel}
    (balanced : Balanced events before) (turns : event.Turns before after) :
    Balanced (events ++ [event]) after := by
  cases event with
  | cleared =>
      cases turns
      refine ⟨?_, ?_, ?_, ?_⟩
      · rw [sinceCleared_append_cleared]
        rfl
      · rw [sinceCleared_append_cleared]
        rfl
      · simpa [subscribers, clear] using balanced.listeners
      · rw [hearings_append]
        simpa [hearings, clear] using balanced.heard
  | subscribed listener =>
      cases turns
      exact balanced.append nofun (List.append_nil _) (List.append_nil _) rfl
        (List.append_nil _).symm
  | enqueued value =>
      cases turns
      exact balanced.append nofun rfl (List.append_nil _) (List.append_nil _).symm
        (List.append_nil _).symm
  | dequeued value =>
      obtain ⟨rest, pending, rfl⟩ := dequeue_eq_some_iff.1 turns
      refine balanced.append nofun ?_ (List.append_nil _) (List.append_nil _).symm
        (List.append_nil _).symm
      rw [pending]
      exact List.append_nil _
  | emitted value =>
      cases turns
      refine balanced.append nofun (List.append_nil _) ?_ (List.append_nil _).symm ?_
      · exact Array.toList_push.symm
      · simp [emit, hearings]
  | drained values =>
      have taken : before.drain = (values, after) := turns
      cases taken
      refine balanced.append nofun (List.append_nil _) ?_ (List.append_nil _).symm
        (List.append_nil _).symm
      simp [valuesEmitted, valuesDrained]

/-- Whatever a channel undergoes keeps the balance. -/
theorem Balanced.of_undergoes
    {before after : Channel} {earlier events : List Event} (balanced : Balanced earlier before)
    (undergoes : Undergoes before events after) : Balanced (earlier ++ events) after := by
  induction undergoes generalizing earlier with
  | nil channel =>
      rw [List.append_nil]
      exact balanced
  | cons turns further ih =>
      have kept := ih (balanced.step turns)
      rw [List.append_assoc] at kept
      exact kept

end Channel

end Intcode
