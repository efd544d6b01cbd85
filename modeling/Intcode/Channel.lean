import Intcode.Decimal

/-!
# Channels

A channel connects a machine with its surroundings: a queue of input values, a queue of output
values, and named listeners that hear each value as it is emitted.  What was heard is kept in one
log, in the order of the calls; neither draining nor clearing touches it.
-/

namespace Intcode

/-- The two queues, the listeners in the order in which they subscribed, and all that they heard. -/
structure Channel where
  input : List Int
  output : Array Int
  listeners : List String
  heard : Array (String × Int)
  deriving DecidableEq, Repr

namespace Channel

def empty : Channel :=
  ⟨[], #[], [], #[]⟩

def enqueueAll (channel : Channel) (values : List Int) : Channel :=
  { channel with input := channel.input ++ values }

def enqueue (channel : Channel) (value : Int) : Channel :=
  channel.enqueueAll [value]

def dequeue (channel : Channel) : Option Int × Channel :=
  match channel.input with
  | [] => (none, channel)
  | value :: rest => (some value, { channel with input := rest })

def pending (channel : Channel) : Nat :=
  channel.input.length

/-- Put a value at the end of the output; each listener hears it, in the order of subscription. -/
def emit (channel : Channel) (value : Int) : Channel :=
  { channel with
    output := channel.output.push value
    heard := channel.heard.appendList (channel.listeners.map fun listener => (listener, value)) }

def drain (channel : Channel) : List Int × Channel :=
  (channel.output.toList, { channel with output := #[] })

def subscribe (channel : Channel) (listener : String) : Channel :=
  { channel with listeners := channel.listeners ++ [listener] }

/-- Empty both queues.  The listeners stay. -/
def clear (channel : Channel) : Channel :=
  { channel with input := [], output := #[] }

def describeValues (values : List Int) : String :=
  "[" ++ ", ".intercalate (values.map Decimal.text) ++ "]"

def describe (channel : Channel) : String :=
  "Channel \x7b input: " ++ describeValues channel.input
    ++ ", output: " ++ describeValues channel.output.toList
    ++ ", listeners: " ++ Decimal.text channel.listeners.length ++ " \x7d"

theorem enqueueAll_enqueueAll (channel : Channel) (first second : List Int) :
    (channel.enqueueAll first).enqueueAll second = channel.enqueueAll (first ++ second) := by
  simp [enqueueAll]

@[simp] theorem enqueueAll_nil (channel : Channel) : channel.enqueueAll [] = channel := by
  simp [enqueueAll]

theorem dequeue_eq_none_iff (channel : Channel) :
    channel.dequeue.1 = none ↔ channel.input = [] := by
  unfold dequeue
  split <;> simp_all

/-- A second drain in a row takes nothing. -/
theorem drain_drain (channel : Channel) : channel.drain.2.drain.1 = [] :=
  rfl

end Channel

end Intcode
