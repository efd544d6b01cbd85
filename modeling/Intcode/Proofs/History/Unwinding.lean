import Intcode.Proofs.History.Passages

/-!
# Unwinding

Two machines that go through schedules of calls are compared passage by passage.  They have the same
core, which each call keeps the same, whatever else is in their channels; and so they show the same
from the first call to the last.
-/

namespace Intcode

namespace Machine

/-! ## Parts of a channel -/

def keep (part : Channel → Channel) (machine : Machine) : Machine :=
  machine.withChannel (part machine.channel)

/--
A part of the channel settles what is told of replies: it has the input, and it determines what is
told, and what becomes of that part, in every call and in every exchange.
-/
structure Settles (part : Channel → Channel) (told : Reply → Reply) : Prop where
  input {first second : Channel} (same : part first = part second) : first.input = second.input
  enqueueAll {first second : Channel} (same : part first = part second) (values : List Int) :
    part (first.enqueueAll values) = part (second.enqueueAll values)
  subscribe {first second : Channel} (same : part first = part second) (listener : String) :
    part (first.subscribe listener) = part (second.subscribe listener)
  clear {first second : Channel} (same : part first = part second) :
    part first.clear = part second.clear
  drain {first second : Channel} (same : part first = part second) :
    part first.drain.2 = part second.drain.2
  values {first second : Channel} (same : part first = part second) :
    told (.values first.drain.1) = told (.values second.drain.1)
  codes {first second : Channel} (same : part first = part second) (phase : Phase) :
    told (.transcript (.ok ⟨first.drain.1, phase⟩)) =
      told (.transcript (.ok ⟨second.drain.1, phase⟩))
  exchange {first second first' second' : Channel} {taken emitted : List Int}
    (same : part first = part second) (exchanged : Channel.Exchange taken emitted first first')
    (exchanged' : Channel.Exchange taken emitted second second') : part first' = part second'

section Settled

variable {part : Channel → Channel} {told : Reply → Reply} {first second : Machine}

theorem keep_eq_iff :
    first.keep part = second.keep part ↔
      second = first.withChannel second.channel ∧ part first.channel = part second.channel :=
  withChannel_eq_iff

theorem keep_withChannel
    (same : first.keep part = second.keep part) {channel other : Channel}
    (kept : part channel = part other) :
    (first.withChannel channel).keep part = (second.withChannel other).keep part := by
  have moved := congrArg (·.withChannel other) (keep_eq_iff.1 same).1
  exact keep_eq_iff.2 ⟨moved, kept⟩

theorem Settles.inside_eq
    (settles : Settles part told) (same : first.keep part = second.keep part) :
    first.inside = second.inside := by
  obtain ⟨moved, kept⟩ := keep_eq_iff.1 same
  exact inside_eq_iff.2 ⟨moved, settles.input kept⟩

theorem Settles.enqueued
    (settles : Settles part told) (same : first.keep part = second.keep part) (values : List Int) :
    (first.enqueueAll values).1 = (second.enqueueAll values).1 ∧
      (first.enqueueAll values).2.keep part = (second.enqueueAll values).2.keep part := by
  obtain ⟨moved, kept⟩ := keep_eq_iff.1 same
  have phase : second.phase = first.phase := by
    rw [moved, phase_withChannel]
  by_cases faulted : first.phase = .faulted
  · rw [enqueueAll_of_faulted faulted, enqueueAll_of_faulted (phase.trans faulted)]
    exact ⟨rfl, same⟩
  · have sound : second.phase ≠ .faulted := by
      rw [phase]
      exact faulted
    rw [enqueueAll_of_not_faulted faulted, enqueueAll_of_not_faulted sound]
    exact ⟨rfl, keep_withChannel same (settles.enqueueAll kept values)⟩

theorem Settles.started
    (settles : Settles part told) (same : part first.channel = part second.channel)
    (program : Program) :
    (first.start program).keep part = (second.start program).keep part :=
  keep_eq_iff.2 ⟨rfl, settles.clear same⟩

theorem Settles.loaded
    (settles : Settles part told) (same : first.keep part = second.keep part) (text : String) :
    (first.load text).1 = (second.load text).1 ∧
      (first.load text).2.keep part = (second.load text).2.keep part := by
  unfold load
  cases Program.parse text with
  | error fault => exact ⟨rfl, same⟩
  | ok program => exact ⟨rfl, settles.started (keep_eq_iff.1 same).2 program⟩

theorem Settles.reached
    (settles : Settles part told) (same : first.keep part = second.keep part) (limit : Nat) :
    (first.reach limit).keep part = (second.reach limit).keep part := by
  obtain ⟨-, reached, taken, emitted, exchanged, exchanged'⟩ :=
    reach_of_inside (settles.inside_eq same) limit
  have kept := settles.exchange (keep_eq_iff.1 same).2 exchanged exchanged'
  exact keep_eq_iff.2 ⟨(inside_eq_iff.1 reached).1, kept⟩

theorem Settles.textAnswer
    (settles : Settles part told) (same : first.keep part = second.keep part)
    (result : Except Fault Phase) :
    told (first.textAnswer result).1 = told (second.textAnswer result).1 ∧
      (first.textAnswer result).2.keep part = (second.textAnswer result).2.keep part := by
  obtain ⟨-, kept⟩ := keep_eq_iff.1 same
  cases result with
  | error fault => exact ⟨rfl, same⟩
  | ok phase => exact ⟨settles.codes kept phase, keep_withChannel same (settles.drain kept)⟩

/-- Machines that differ at most in the rest of their channels are told to reply the same to a call,
and then again differ at most there. -/
theorem Settles.passage
    (settles : Settles part told) (same : first.keep part = second.keep part) (limit : Nat)
    (call : Call) :
    (Passage.mk first limit call).reply.map told =
        (Passage.mk second limit call).reply.map told ∧
      (Passage.mk first limit call).after.keep part =
        (Passage.mk second limit call).after.keep part := by
  have results := (reach_of_inside (settles.inside_eq same) limit).1
  have reached := settles.reached same limit
  obtain ⟨moved, kept⟩ := keep_eq_iff.1 same
  cases call with
  | run =>
      rw [Passage.reply_run, Passage.reply_run, Passage.after_run, Passage.after_run, results]
      exact ⟨rfl, reached⟩
  | runText =>
      rw [Passage.reply_runText, Passage.reply_runText, Passage.after_runText,
        Passage.after_runText, results]
      cases (second.run limit).map Prod.fst with
      | none => exact ⟨rfl, reached⟩
      | some result =>
          obtain ⟨replies, left⟩ := settles.textAnswer reached result
          exact ⟨congrArg some replies, left⟩
  | load text =>
      obtain ⟨replies, left⟩ := settles.loaded same text
      exact ⟨congrArg (fun result => some (told (.done result))) replies, left⟩
  | start program => exact ⟨rfl, settles.started kept program⟩
  | enqueue value =>
      obtain ⟨replies, left⟩ := settles.enqueued same [value]
      exact ⟨congrArg (fun result => some (told (.done result))) replies, left⟩
  | drain => exact ⟨congrArg some (settles.values kept), keep_withChannel same (settles.drain kept)⟩
  | listen listener => exact ⟨rfl, keep_withChannel same (settles.subscribe kept listener)⟩
  | sendLine line =>
      obtain ⟨replies, left⟩ := settles.enqueued same (lineCodes line)
      rw [← sendLine_eq, ← sendLine_eq] at replies left
      exact ⟨congrArg (fun result => some (told (.done result))) replies, left⟩

theorem Settles.returns
    (settles : Settles part told) (same : first.keep part = second.keep part) (limit : Nat)
    (call : Call) :
    (Passage.mk first limit call).returns = (Passage.mk second limit call).returns := by
  have replies := congrArg Option.isSome (settles.passage same limit call).1
  rw [Option.isSome_map, Option.isSome_map] at replies
  exact replies

end Settled

/-! ## Schedules of two machines -/

/--
What is seen unwinds over a core of machines.  A passage that is not shown returns and keeps the
core; in a passage that is shown, machines with the same core show the same, both return or neither
does, and they keep the same core.
-/
structure Unwinds {View : Type} (core : Machine → Machine) (shown : Call → Bool)
    (view : Passage → View) : Prop where
  hidden (passage : Passage) (hides : shown passage.call = false) :
    passage.returns = true ∧ core passage.after = core passage.before
  seen {first second : Machine} (same : core first = core second) (limit : Nat) {call : Call}
    (shows : shown call = true) :
    (Passage.mk first limit call).returns = (Passage.mk second limit call).returns ∧
      core (Passage.mk first limit call).after = core (Passage.mk second limit call).after ∧
      view ⟨first, limit, call⟩ = view ⟨second, limit, call⟩

def views {View : Type} (shown : Call → Bool) (view : Passage → View)
    (schedule : List (Nat × Call)) (machine : Machine) : List View :=
  ((machine.passages schedule).filter fun passage => shown passage.call).map view

variable {View : Type} {core : Machine → Machine} {shown : Call → Bool} {view : Passage → View}

theorem views_of_hidden
    {machine : Machine} {limit : Nat} {call : Call} (hides : shown call = false)
    (returns : (Passage.mk machine limit call).returns = true) (rest : List (Nat × Call)) :
    machine.views shown view ((limit, call) :: rest) =
      (Passage.mk machine limit call).after.views shown view rest := by
  unfold views
  rw [passages_of_returns returns, List.filter_cons, if_neg (ne_true_of_eq_false hides)]

theorem views_of_shown
    {machine : Machine} {limit : Nat} {call : Call} (shows : shown call = true)
    (rest : List (Nat × Call)) :
    machine.views shown view ((limit, call) :: rest) =
      view ⟨machine, limit, call⟩ ::
        if (Passage.mk machine limit call).returns then
          (Passage.mk machine limit call).after.views shown view rest
        else
          [] := by
  unfold views
  cases returns : (Passage.mk machine limit call).returns with
  | true =>
      rw [passages_of_returns returns, List.filter_cons, if_pos shows]
      rfl
  | false =>
      rw [passages_of_not_returns returns, List.filter_cons, if_pos shows]
      rfl

/-- What a machine shows, a machine with the same core shows without the calls that are hidden. -/
theorem Unwinds.views_filter
    (unwinds : Unwinds core shown view) (schedule : List (Nat × Call)) {first second : Machine}
    (same : core first = core second) :
    first.views shown view schedule =
      second.views shown view (schedule.filter fun entry => shown entry.2) := by
  induction schedule generalizing first second with
  | nil => rfl
  | cons entry rest ih =>
      -- in a hidden call only the first machine moves, and in one that is shown both do
      cases shows : shown entry.2 with
      | false =>
          obtain ⟨returns, kept⟩ := unwinds.hidden ⟨first, entry.1, entry.2⟩ shows
          rw [List.filter_cons, if_neg (ne_true_of_eq_false shows), views_of_hidden shows returns]
          exact ih (kept.trans same)
      | true =>
          obtain ⟨returns, kept, seen⟩ := unwinds.seen same entry.1 shows
          rw [List.filter_cons, if_pos shows, views_of_shown shows, views_of_shown shows, returns,
            seen, ih kept]

/-- Machines with the same core show the same in schedules that differ in hidden calls only. -/
theorem Unwinds.views_eq
    (unwinds : Unwinds core shown view) {first second : Machine}
    (same : core first = core second) {schedule other : List (Nat × Call)}
    (common : schedule.filter (fun entry => shown entry.2) =
      other.filter fun entry => shown entry.2) :
    first.views shown view schedule = second.views shown view other := by
  rw [unwinds.views_filter schedule same, common, ← unwinds.views_filter other rfl]

end Machine

end Intcode
