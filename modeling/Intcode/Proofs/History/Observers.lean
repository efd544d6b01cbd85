import Intcode.Proofs.History.Unwinding

/-!
# Observers

Observing a machine does not disturb it.  Whoever drains the output or listens to it, and whenever,
the machine gives the same replies, goes through the same states and puts out the same values; what
was drained and what is left comes to the same, and a listener hears the same.
-/

namespace Intcode

namespace Machine

/-- The calls that do more than observe, and those that add a listener of the given names. -/
def Call.shown (names : List String) : Call → Bool
  | .drain => false
  | .listen listener => names.contains listener
  | .load _ | .start _ | .enqueue _ | .run | .sendLine _ | .runText => true

/-- A reply without the values that were drained for it. -/
def Reply.undrained : Reply → Reply
  | .values _ => .values []
  | .transcript (.ok told) => .transcript (.ok { told with codes := [] })
  | .transcript (.error fault) => .transcript (.error fault)
  | .done result => .done result
  | .phase result => .phase result

/-- What a machine does in the course of a call: what it replies, what it is then inside, and what
its program puts out. -/
structure Conduct where
  call : Call
  reply : Option Reply
  inside : Machine
  emitted : List Int

def Passage.conduct (passage : Passage) : Conduct :=
  ⟨passage.call, passage.reply.map Reply.undrained, passage.after.inside, passage.emitted⟩

/-! ## Machines that are the same inside -/

/-- The input settles all but what is drained. -/
theorem settles_input :
    Settles (fun channel => { Channel.empty with input := channel.input }) Reply.undrained where
  input same := (Channel.mk.inj same).1
  enqueueAll same values := congrArg (·.enqueueAll values) same
  subscribe same listener := same
  clear same := rfl
  drain same := same
  values same := rfl
  codes same phase := rfl
  exchange same exchanged exchanged' := by
    have input := (Channel.mk.inj same).1
    rw [exchanged.input, exchanged'.input] at input
    rw [List.append_cancel_left input]

/-- The conduct of machines unwinds over their inside, when some observers are left out. -/
theorem unwinds_conduct (names : List String) :
    Unwinds inside (Call.shown names) Passage.conduct where
  hidden := by
    rintro ⟨before, limit, call⟩ hides
    cases call with
    | drain => exact ⟨rfl, rfl⟩
    | listen listener => exact ⟨rfl, rfl⟩
    | load text => cases hides
    | start program => cases hides
    | enqueue value => cases hides
    | run => cases hides
    | sendLine line => cases hides
    | runText => cases hides
  seen := by
    intro first second same limit call shows
    obtain ⟨replies, left⟩ := settles_input.passage same limit call
    refine ⟨settles_input.returns same limit call, left, ?_⟩
    unfold Passage.conduct
    rw [replies, emitted_of_inside same]
    exact congrArg (Conduct.mk call _ · _) left

/-! ## What goes out -/

open Channel Event

def Conduct.outward (names : List String) (conduct : Conduct) : List Event :=
  conduct.emitted.map .emitted ++
    conduct.reply.toList.flatMap fun reply =>
      (conduct.call.ownerEvents reply).filter (Event.outward names)

theorem filter_ownerEvents (names : List String) (call : Call) (reply : Reply) :
    (call.ownerEvents reply).filter (Event.outward names) =
      (call.ownerEvents reply.undrained).filter (Event.outward names) := by
  cases reply with
  | done result => rfl
  | phase result => rfl
  | values values => cases call <;> rfl
  | transcript result =>
      cases result with
      | error fault => rfl
      | ok transcript => cases call <;> rfl

theorem filter_events (names : List String) (passage : Passage) :
    passage.events.filter (Event.outward names) = passage.conduct.outward names := by
  unfold Passage.events Conduct.outward
  rw [List.filter_append, filter_outward_of_instructions
    fun _ => ofInstruction_of_mem_instructionEvents]
  unfold Passage.conduct
  cases passage.reply with
  | none => rfl
  | some reply =>
      simp only [Option.map_some, Option.toList_some, List.flatMap_cons, List.flatMap_nil,
        List.append_nil]
      rw [filter_ownerEvents]
      rfl

/-- Of a call that is not shown nothing matters. -/
theorem outward_of_hidden
    {names : List String} {passage : Passage} (hides : passage.call.shown names = false) :
    passage.conduct.outward names = [] := by
  obtain ⟨before, limit, call⟩ := passage
  cases call with
  | drain => rfl
  | listen listener =>
      have outside : Event.outward names (.subscribed listener) = false := hides
      have owned : (Passage.mk before limit (.listen listener)).conduct.outward names =
          [.subscribed listener].filter (Event.outward names) := List.append_nil _
      rw [owned, List.filter_cons_of_neg (ne_true_of_eq_false outside)]
      rfl
  | load text => cases hides
  | start program => cases hides
  | enqueue value => cases hides
  | run => cases hides
  | sendLine line => cases hides
  | runText => cases hides

/-- What goes out of a machine is settled by its conduct. -/
theorem filter_scheduleEvents (names : List String) (schedule : List (Nat × Call))
    (machine : Machine) :
    (machine.scheduleEvents schedule).filter (Event.outward names) =
      (machine.views (Call.shown names) Passage.conduct schedule).flatMap
        (Conduct.outward names) := by
  unfold scheduleEvents views
  induction machine.passages schedule with
  | nil => rfl
  | cons passage rest ih =>
      rw [List.flatMap_cons, List.filter_append, filter_events, ih]
      cases shows : passage.call.shown names with
      | true =>
          rw [List.filter_cons, if_pos shows]
          rfl
      | false =>
          rw [outward_of_hidden shows, List.filter_cons, if_neg (ne_true_of_eq_false shows)]
          rfl

/-- What was drained since a channel was cleared, and then what is left in it, is the same for
channels that undergo the same events as far as they matter, if they had the same output or were
cleared on the way. -/
theorem collected_eq
    {before after before' after' : Channel} {events events' : List Event} {names : List String}
    (undergoes : Undergoes before events after) (undergoes' : Undergoes before' events' after')
    (same : events.filter (Event.outward names) = events'.filter (Event.outward names))
    (start : before.output = before'.output ∨ cleared ∈ events) :
    valuesDrained (sinceCleared events) ++ after.output.toList =
      valuesDrained (sinceCleared events') ++ after'.output.toList := by
  have clears : cleared ∈ events ↔ cleared ∈ events' := by
    rw [← cleared_mem_filter_outward, same, cleared_mem_filter_outward]
  have emitted : valuesEmitted (sinceCleared events) = valuesEmitted (sinceCleared events') := by
    rw [← valuesEmitted_filter_outward names, ← sinceCleared_filter_outward, same,
      sinceCleared_filter_outward, valuesEmitted_filter_outward]
  rw [undergoes.output, undergoes'.output, emitted]
  by_cases again : cleared ∈ events
  · rw [if_pos again, if_pos (clears.1 again)]
  · rw [if_neg again, if_neg fun later => again (clears.2 later)]
    rcases start with same | clearing
    · rw [same]
    · exact absurd clearing again

/--
Observing does not disturb.  Let two machines be the same inside, whatever their outputs and their
listeners, and let their owners make the same calls but for draining, and for listeners of other
than some names.  Then the machines reply the same to all calls that are common, are the same inside
after each of them, and put out the same values in its course.  What was drained since a program was
last loaded, and then what is left in the output, comes to the same, if the outputs were the same at
the start or a program was loaded on the way.  A listener of one of the names hears the same.
-/
theorem observing_does_not_disturb
    {first second : Machine} (same : first.inside = second.inside) {names : List String}
    {schedule other : List (Nat × Call)}
    (common : schedule.filter (fun entry => entry.2.shown names) =
      other.filter fun entry => entry.2.shown names) :
    first.views (Call.shown names) Passage.conduct schedule =
        second.views (Call.shown names) Passage.conduct other ∧
      (first.channel.output = second.channel.output ∨ cleared ∈ first.scheduleEvents schedule →
        valuesDrained (sinceCleared (first.scheduleEvents schedule)) ++
            (first.arrive schedule).channel.output.toList =
          valuesDrained (sinceCleared (second.scheduleEvents other)) ++
            (second.arrive other).channel.output.toList) ∧
      ∀ name ∈ names,
        first.channel.listeners.count name = second.channel.listeners.count name →
          ∃ values,
            heardBy name (first.arrive schedule).channel.heard.toList =
                heardBy name first.channel.heard.toList ++ values ∧
              heardBy name (second.arrive other).channel.heard.toList =
                heardBy name second.channel.heard.toList ++ values := by
  have conducts := (unwinds_conduct names).views_eq same common
  have undergoes := undergoes_schedule schedule first
  have undergoes' := undergoes_schedule other second
  have outward : (first.scheduleEvents schedule).filter (Event.outward names) =
      (second.scheduleEvents other).filter (Event.outward names) := by
    rw [filter_scheduleEvents, filter_scheduleEvents, conducts]
  refine ⟨conducts, collected_eq undergoes undergoes' outward, ?_⟩
  intro name member counted
  refine ⟨heardBy name (hearings first.channel.listeners (first.scheduleEvents schedule)), ?_, ?_⟩
  · rw [undergoes.heard, heardBy_append]
  · rw [undergoes'.heard, heardBy_append, heardBy_filter_outward member counted, outward,
      ← heardBy_filter_outward member rfl]

def echoed : List (Nat × Call) :=
  [(0, .enqueue 7), (3, .run), (0, .listen "right"), (0, .enqueue 8), (3, .run)]

def echoedAndDrained : List (Nat × Call) :=
  [(0, .enqueue 7), (0, .listen "left"), (3, .run), (0, .drain), (0, .listen "right"),
    (0, .enqueue 8), (0, .listen "middle"), (3, .run), (0, .drain)]

/-- However it is observed, the machine puts out both values, and the listener hears the second. -/
theorem observing_does_not_disturb_echoes :
    valuesDrained (sinceCleared
          (((empty.listen "left").start echoes).scheduleEvents echoedAndDrained)) ++
        (((empty.listen "left").start echoes).arrive echoedAndDrained).channel.output.toList =
      [7, 8] ∧
    heardBy "right"
        (((empty.listen "left").start echoes).arrive echoedAndDrained).channel.heard.toList =
      [8] := by
  have observed := @observing_does_not_disturb (empty.start echoes)
    ((empty.listen "left").start echoes) rfl ["right"] echoed echoedAndDrained rfl
  obtain ⟨-, collected, heard⟩ := observed
  have alone : valuesDrained (sinceCleared ((empty.start echoes).scheduleEvents echoed)) ++
      ((empty.start echoes).arrive echoed).channel.output.toList = [7, 8] := by rfl
  have aloneHeard :
      heardBy "right" ((empty.start echoes).arrive echoed).channel.heard.toList = [8] := by rfl
  obtain ⟨values, first, second⟩ := heard "right" List.mem_cons_self rfl
  refine ⟨(collected (.inl rfl)).symm.trans alone, ?_⟩
  rw [second, ← aloneHeard, first]
  rfl

end Machine

end Intcode
