import Intcode.Proofs.Channel.Ledger

/-!
# What goes out of a channel

The output of a channel, together with all that was drained from it, depends on the values that were
put out and on the times at which the channel was cleared, and what a listener hears on the values
that were put out since it subscribed.  Neither depends on when values were drained, nor on the
other listeners.
-/

namespace Intcode

namespace Channel

namespace Event

/-- The events that matter to the output and to the listeners of some names. -/
def outward (names : List String) : Event → Bool
  | cleared | emitted _ => true
  | subscribed listener => names.contains listener
  | enqueued _ | dequeued _ | drained _ => false

/-- Of what instructions do, the values that they put out are all that matters to the output. -/
theorem filter_outward_of_instructions
    {events : List Event} (instructions : ∀ event ∈ events, event.OfInstruction)
    (names : List String) :
    events.filter (outward names) = (valuesEmitted events).map .emitted := by
  induction events with
  | nil => rfl
  | cons event rest ih =>
      have later := ih fun other listed => instructions other (List.mem_cons_of_mem _ listed)
      cases instructions event List.mem_cons_self with
      | dequeued value => exact later
      | emitted value => exact congrArg (.emitted value :: ·) later

/-- What listeners hear of instructions is each value that they put out. -/
theorem hearings_of_instructions
    {events : List Event} (instructions : ∀ event ∈ events, event.OfInstruction)
    (listeners : List String) :
    hearings listeners events =
      (valuesEmitted events).flatMap fun value =>
        listeners.map fun listener => (listener, value) := by
  induction events with
  | nil => rfl
  | cons event rest ih =>
      have later := ih fun other listed => instructions other (List.mem_cons_of_mem _ listed)
      cases instructions event List.mem_cons_self with
      | dequeued value => exact later
      | emitted value => exact congrArg (listeners.map (fun listener => (listener, value)) ++ ·) later

/-! ## Since the channel was cleared -/

theorem sinceCleared_of_not_mem {events : List Event} (uncleared : cleared ∉ events) :
    sinceCleared events = events := by
  apply List.rtakeWhile_eq_self_iff.2
  intro event listed
  have apart : event ≠ cleared := by
    rintro rfl
    exact uncleared listed
  exact decide_eq_true apart

theorem sinceCleared_cons_of_mem {events : List Event} (again : cleared ∈ events) (event : Event) :
    sinceCleared (event :: events) = sinceCleared events := by
  induction events using List.reverseRecOn with
  | nil => cases again
  | append_singleton earlier last ih =>
      rw [← List.cons_append]
      by_cases clears : last = cleared
      · rw [clears, sinceCleared_append_cleared, sinceCleared_append_cleared]
      · have before : cleared ∈ earlier := by
          rcases List.mem_append.1 again with listed | listed
          · exact listed
          · exact absurd (List.mem_singleton.1 listed).symm clears
        rw [sinceCleared_append clears, sinceCleared_append clears, ih before]

theorem sinceCleared_cleared_cons {events : List Event} (once : cleared ∉ events) :
    sinceCleared (cleared :: events) = events := by
  induction events using List.reverseRecOn with
  | nil => rfl
  | append_singleton earlier last ih =>
      have apart : last ≠ cleared := by
        rintro rfl
        exact once List.mem_concat_self
      have before : cleared ∉ earlier := fun listed => once (List.mem_append_left _ listed)
      rw [← List.cons_append, sinceCleared_append apart, ih before]

/-- Events that do not matter to the output can be left out of account. -/
theorem valuesEmitted_filter_outward (names : List String) (events : List Event) :
    valuesEmitted (events.filter (outward names)) = valuesEmitted events := by
  induction events with
  | nil => rfl
  | cons event rest ih =>
      cases event with
      | emitted value => exact congrArg (value :: ·) ih
      | subscribed listener =>
          cases listed : outward names (.subscribed listener) with
          | true =>
              rw [List.filter_cons_of_pos listed]
              exact ih
          | false =>
              rw [List.filter_cons_of_neg (ne_true_of_eq_false listed)]
              exact ih
      | cleared => exact ih
      | enqueued value => exact ih
      | dequeued value => exact ih
      | drained values => exact ih

theorem cleared_mem_filter_outward {names : List String} {events : List Event} :
    cleared ∈ events.filter (outward names) ↔ cleared ∈ events := by
  rw [List.mem_filter]
  exact and_iff_left rfl

/-- The events that matter since the channel was cleared are those since then that matter. -/
theorem sinceCleared_filter_outward (names : List String) (events : List Event) :
    sinceCleared (events.filter (outward names)) =
      (sinceCleared events).filter (outward names) := by
  induction events using List.reverseRecOn with
  | nil => rfl
  | append_singleton earlier last ih =>
      rw [List.filter_append]
      by_cases clears : last = cleared
      · have kept : [cleared].filter (outward names) = [cleared] := rfl
        rw [clears, kept, sinceCleared_append_cleared, sinceCleared_append_cleared]
        rfl
      · rw [sinceCleared_append clears, List.filter_append, ← ih]
        cases matters : outward names last with
        | true =>
            have kept : [last].filter (outward names) = [last] := by
              rw [List.filter_cons_of_pos matters]
              rfl
            rw [kept, sinceCleared_append clears]
        | false =>
            have dropped : [last].filter (outward names) = [] := by
              rw [List.filter_cons_of_neg (ne_true_of_eq_false matters)]
              rfl
            rw [dropped, List.append_nil, List.append_nil]

/-! ## What is heard under a name -/

/-- What is heard under a name depends on how often it has subscribed, and on the events that matter
to that name. -/
theorem heardBy_filter_outward
    {name : String} {names : List String} (member : name ∈ names) {first second : List String}
    (counted : first.count name = second.count name) (events : List Event) :
    heardBy name (hearings first events) =
      heardBy name (hearings second (events.filter (outward names))) := by
  induction events generalizing first second with
  | nil => rfl
  | cons event rest ih =>
      cases event with
      | emitted value =>
          have kept : (emitted value :: rest).filter (outward names) =
              emitted value :: rest.filter (outward names) := rfl
          rw [kept]
          simp only [hearings, heardBy_append, heardBy_map]
          rw [counted, ih counted]
      | subscribed listener =>
          cases listed : outward names (.subscribed listener) with
          | true =>
              rw [List.filter_cons_of_pos listed]
              apply ih
              rw [List.count_append, List.count_append, counted]
          | false =>
              rw [List.filter_cons_of_neg (ne_true_of_eq_false listed)]
              have apart : listener ≠ name := by
                rintro rfl
                have outside : names.contains listener = false := listed
                rw [List.contains_iff_mem.2 member] at outside
                cases outside
              apply ih
              rw [List.count_append, List.count_singleton, beq_false_of_ne apart]
              exact counted
      | cleared => exact ih counted
      | enqueued value => exact ih counted
      | dequeued value => exact ih counted
      | drained values => exact ih counted

end Event

open Event

/-- What was drained from a channel since it was last cleared, and then what is left in its output,
is what had been in its output and what was put out since. -/
theorem Undergoes.output
    {before after : Channel} {events : List Event} (undergoes : Undergoes before events after) :
    valuesDrained (sinceCleared events) ++ after.output.toList =
      (if cleared ∈ events then [] else before.output.toList) ++
        valuesEmitted (sinceCleared events) := by
  induction undergoes with
  | nil channel => exact (List.append_nil _).symm
  | @cons before middle after event events turns further ih =>
      -- a later clearing makes nothing of the first event; without one the account starts with it
      by_cases again : cleared ∈ events
      · rw [if_pos again] at ih
        rw [sinceCleared_cons_of_mem again, if_pos (List.mem_cons_of_mem _ again)]
        exact ih
      · rw [if_neg again, sinceCleared_of_not_mem again] at ih
        by_cases clears : event = cleared
        · subst clears
          cases turns
          rw [sinceCleared_cleared_cons again, if_pos List.mem_cons_self]
          exact ih
        · have uncleared : cleared ∉ event :: events := by
            intro listed
            rcases List.mem_cons.1 listed with same | later
            · exact clears same.symm
            · exact again later
          rw [sinceCleared_of_not_mem uncleared, if_neg uncleared]
          cases event with
          | cleared => exact absurd rfl clears
          | subscribed listener =>
              cases turns
              exact ih
          | enqueued value =>
              cases turns
              exact ih
          | dequeued value =>
              obtain ⟨rest, -, rfl⟩ := dequeue_eq_some_iff.1 turns
              exact ih
          | emitted value =>
              cases turns
              have pushed : (before.emit value).output.toList = before.output.toList ++ [value] :=
                Array.toList_push
              rw [pushed, List.append_assoc] at ih
              exact ih
          | drained values =>
              have taken : before.drain = (values, middle) := turns
              cases taken
              have drained : valuesDrained (.drained before.output.toList :: events) =
                  before.output.toList ++ valuesDrained events := rfl
              rw [drained, List.append_assoc, ih]
              rfl

/-- What listeners have heard is what they had heard and the hearings of the events. -/
theorem Undergoes.heard
    {before after : Channel} {events : List Event} (undergoes : Undergoes before events after) :
    after.heard.toList = before.heard.toList ++ hearings before.listeners events := by
  induction undergoes with
  | nil channel => exact (List.append_nil _).symm
  | @cons before middle after event events turns further ih =>
      rw [ih]
      cases event with
      | cleared =>
          cases turns
          rfl
      | subscribed listener =>
          cases turns
          rfl
      | enqueued value =>
          cases turns
          rfl
      | dequeued value =>
          obtain ⟨rest, -, rfl⟩ := dequeue_eq_some_iff.1 turns
          rfl
      | emitted value =>
          cases turns
          simp [emit, hearings]
      | drained values =>
          have taken : before.drain = (values, middle) := turns
          cases taken
          rfl

end Channel

end Intcode
