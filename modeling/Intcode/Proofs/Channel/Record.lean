import Intcode.Proofs.Channel.Ledger

/-!
# The record of a channel

Whoever holds a channel may ask it for six things, in any order.  The calls and their replies make
up a record of events, and the record settles what the queues hold and what was heard: since the
last clearing nothing that was put into a queue is lost, doubled or out of turn, and over the whole
record each value that was emitted was heard by the listeners that had subscribed before.
-/

namespace Intcode

namespace Channel

inductive Call where
  | enqueue (value : Int)
  | dequeue
  | emit (value : Int)
  | drain
  | subscribe (listener : String)
  | clear
  deriving DecidableEq, Repr

inductive Reply where
  | done
  | first (value : Option Int)
  | values (values : List Int)
  deriving DecidableEq, Repr

def answer (channel : Channel) : Call → Reply × Channel
  | .enqueue value => (.done, channel.enqueue value)
  | .dequeue => (.first channel.dequeue.1, channel.dequeue.2)
  | .emit value => (.done, channel.emit value)
  | .drain => (.values channel.drain.1, channel.drain.2)
  | .subscribe listener => (.done, channel.subscribe listener)
  | .clear => (.done, channel.clear)

/-- The event that a call brings about, as told by the reply.  There is none when there was nothing
to dequeue. -/
def Call.event? : Call → Reply → Option Event
  | .enqueue value, .done => some (.enqueued value)
  | .dequeue, .first (some value) => some (.dequeued value)
  | .emit value, .done => some (.emitted value)
  | .drain, .values values => some (.drained values)
  | .subscribe listener, .done => some (.subscribed listener)
  | .clear, .done => some .cleared
  | _, _ => none

def after (channel : Channel) (calls : List Call) : Channel :=
  calls.foldl (fun channel call => (channel.answer call).2) channel

def record : Channel → List Call → List Event
  | _, [] => []
  | channel, call :: rest =>
      (call.event? (channel.answer call).1).toList ++ (channel.answer call).2.record rest

theorem undergoes_answer (channel : Channel) (call : Call) :
    Undergoes channel (call.event? (channel.answer call).1).toList (channel.answer call).2 := by
  cases call with
  | enqueue value => exact .one rfl
  | dequeue =>
      rcases taken : channel.dequeue with ⟨_ | value, rest⟩
      · have empty : channel.dequeue.1 = none := by rw [taken]
        have same : rest = channel := by
          rw [dequeue, (channel.dequeue_eq_none_iff).1 empty] at taken
          exact (Prod.mk.inj taken).2.symm
        simp only [answer, taken, same]
        exact .nil channel
      · simp only [answer, taken]
        exact .one taken
  | emit value => exact .one rfl
  | drain => exact .one rfl
  | subscribe listener => exact .one rfl
  | clear => exact .one rfl

/-- In the course of calls the channel undergoes what they put on record. -/
theorem undergoes_record (channel : Channel) (calls : List Call) :
    Undergoes channel (channel.record calls) (channel.after calls) := by
  induction calls generalizing channel with
  | nil => exact .nil channel
  | cons call rest ih => exact (channel.undergoes_answer call).append (ih _)

namespace Event

/-- The calls of listeners for the event at a position: each listener that subscribed before hears
the value that is emitted there. -/
def hearingsAt (events : List Event) (position : Nat) : List (String × Int) :=
  match events[position]? with
  | some (emitted value) =>
      (subscribers (events.take position)).map fun listener => (listener, value)
  | _ => []

theorem hearingsAt_append {earlier : List Event} {position : Nat}
    (inside : position < earlier.length) (later : List Event) :
    hearingsAt (earlier ++ later) position = hearingsAt earlier position := by
  unfold hearingsAt
  rw [List.getElem?_append_left inside, List.take_append_of_le_length (Nat.le_of_lt inside)]

theorem hearingsAt_length (earlier : List Event) (event : Event) :
    hearingsAt (earlier ++ [event]) earlier.length = hearings (subscribers earlier) [event] := by
  unfold hearingsAt
  rw [List.getElem?_concat_length, List.take_left]
  cases event with
  | emitted value => simp [hearings]
  | cleared => rfl
  | subscribed listener => rfl
  | enqueued value => rfl
  | dequeued value => rfl
  | drained values => rfl

theorem hearings_eq_flatMap (events : List Event) :
    hearings [] events = (List.range events.length).flatMap (hearingsAt events) := by
  induction events using List.reverseRecOn with
  | nil => rfl
  | append_singleton earlier event ih =>
      have before : (List.range earlier.length).flatMap (hearingsAt (earlier ++ [event])) =
          (List.range earlier.length).flatMap (hearingsAt earlier) :=
        List.flatMap_congr fun position listed =>
          hearingsAt_append (List.mem_range.1 listed) [event]
      rw [hearings_append, ih, List.length_append, List.length_singleton, List.range_succ,
        List.flatMap_append, before, List.flatMap_singleton, hearingsAt_length, List.nil_append]

end Event

open Event

/--
The record of a channel settles what it holds.  Whatever the channel was asked for, since it was
last cleared the values enqueued are the values dequeued and then the input, whose length is the
number pending and which alone decides whether there is a value to dequeue; and the values emitted
are the values drained and then the output, of which a second drain in a row finds nothing.  Over
the whole record, whatever was cleared or drained, each value emitted was heard by the listeners
that had subscribed before, in their order, before the next.
-/
theorem record_settles_channel (calls : List Call) :
    let channel := empty.after calls
    let events := empty.record calls
    let recent := sinceCleared events
    valuesEnqueued recent = valuesDequeued recent ++ channel.input ∧
      channel.pending = channel.input.length ∧
      (channel.dequeue.1 = none ↔ channel.input = []) ∧
      valuesEmitted recent = valuesDrained recent ++ channel.output.toList ∧
      channel.drain.2.drain.1 = [] ∧
      channel.heard.toList = (List.range events.length).flatMap (hearingsAt events) := by
  intro channel events recent
  have balanced : Balanced events channel :=
    balanced_empty.of_undergoes (undergoes_record empty calls)
  refine ⟨balanced.input, rfl, channel.dequeue_eq_none_iff, balanced.output, channel.drain_drain,
    ?_⟩
  rw [balanced.heard, hearings_eq_flatMap]

/-- The second listener comes too late for the first value, and the clearing too late for the first
two. -/
example :
    let calls := [Call.enqueue 7, .subscribe "left", .emit 1, .subscribe "right", .emit 2, .clear,
      .dequeue, .emit 3]
    (empty.after calls).input = [] ∧ (empty.after calls).output = #[3] ∧
      (empty.after calls).heard.toList =
        [("left", 1), ("left", 2), ("right", 2), ("left", 3), ("right", 3)] := by
  decide

end Channel

end Intcode
