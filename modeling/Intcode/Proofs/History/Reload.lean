import Intcode.Proofs.History.Lifecycle
import Intcode.Proofs.History.Unwinding

/-!
# Reloading

Loading a program erases the history of a machine: of all that happened before, only the listeners
are left, and so whatever is called later shows the same as on a machine that never did anything but
listen.  A text that is no program leaves no trace.
-/

namespace Intcode

namespace Channel

def unheard (channel : Channel) : Channel :=
  { channel with heard := #[] }

theorem unheard_eq_iff {first second : Channel} :
    first.unheard = second.unheard ↔
      first.input = second.input ∧ first.output = second.output ∧
        first.listeners = second.listeners := by
  simp only [unheard, Channel.mk.injEq, and_true]

end Channel

namespace Machine

def unheard (machine : Machine) : Machine :=
  machine.keep Channel.unheard

/-- What can be seen of a call: the reply, the machine that it leaves but for what was heard in the
past, and the calls of listeners. -/
structure Sight where
  reply : Option Reply
  machine : Machine
  heard : List (String × Int)

def Passage.sight (passage : Passage) : Sight :=
  ⟨passage.reply, passage.after.unheard, passage.heard⟩

/-! ## Machines that differ in what was heard -/

/-- What was heard settles nothing. -/
theorem settles_unheard : Settles Channel.unheard id where
  input same := (Channel.unheard_eq_iff.1 same).1
  enqueueAll same values := congrArg (·.enqueueAll values) same
  subscribe same listener := congrArg (·.subscribe listener) same
  clear same := congrArg (·.clear) same
  drain same := congrArg (·.drain.2) same
  values same := by
    obtain ⟨-, output, -⟩ := Channel.unheard_eq_iff.1 same
    exact congrArg (fun output => Reply.values output.toList) output
  codes same phase := by
    obtain ⟨-, output, -⟩ := Channel.unheard_eq_iff.1 same
    exact congrArg (fun output => Reply.transcript (.ok ⟨output.toList, phase⟩)) output
  exchange same exchanged exchanged' := by
    obtain ⟨input, output, listeners⟩ := Channel.unheard_eq_iff.1 same
    refine Channel.unheard_eq_iff.2 ⟨?_, ?_, ?_⟩
    · rw [exchanged.input, exchanged'.input] at input
      exact List.append_cancel_left input
    · apply Array.toList_inj.1
      rw [exchanged.output, exchanged'.output, output]
    · rw [exchanged.listeners, exchanged'.listeners, listeners]

/-- Of all calls, machines that differ at most in what was heard show the same. -/
theorem unwinds_sight : Unwinds unheard (fun _ => true) Passage.sight where
  hidden := by
    intro passage hides
    cases hides
  seen := by
    intro first second same limit call shows
    obtain ⟨replies, left⟩ := settles_unheard.passage same limit call
    obtain ⟨-, -, listeners⟩ := Channel.unheard_eq_iff.1 (keep_eq_iff.1 same).2
    have heard : (Passage.mk first limit call).heard = (Passage.mk second limit call).heard := by
      rw [Passage.heard_eq, Passage.heard_eq, emitted_of_inside (settles_unheard.inside_eq same),
        listeners]
    rw [Option.map_id, id, id] at replies
    refine ⟨settles_unheard.returns same limit call, left, ?_⟩
    unfold Passage.sight
    rw [replies, heard]
    exact congrArg (Sight.mk _ · _) left

theorem sights_eq
    {first second : Machine} (same : first.unheard = second.unheard)
    (schedule : List (Nat × Call)) :
    (first.passages schedule).map Passage.sight = (second.passages schedule).map Passage.sight := by
  have views := unwinds_sight.views_eq same (Eq.refl (schedule.filter fun _ => true))
  unfold Machine.views at views
  rw [List.filter_true, List.filter_true] at views
  exact views

/-! ## Loading -/

def listening (listeners : List String) : Machine :=
  listeners.foldl listen empty

theorem foldl_listen (machine : Machine) (listeners : List String) :
    listeners.foldl listen machine =
      machine.withChannel
        { machine.channel with listeners := machine.channel.listeners ++ listeners } := by
  induction listeners generalizing machine with
  | nil =>
      rw [List.append_nil]
      rfl
  | cons listener rest ih =>
      rw [List.foldl_cons, ih]
      have listed : (machine.listen listener).channel.listeners ++ rest =
          machine.channel.listeners ++ listener :: rest := List.append_assoc _ _ _
      rw [listed]
      rfl

/-- Machines with the same listeners differ at most in what was heard when they start a program. -/
theorem unheard_start
    {first second : Machine} (listeners : first.channel.listeners = second.channel.listeners)
    (program : Program) :
    (first.start program).unheard = (second.start program).unheard := by
  exact keep_eq_iff.2 ⟨rfl, Channel.unheard_eq_iff.2 ⟨rfl, rfl, listeners⟩⟩

def Call.program? : Call → Option Program
  | .load text => (Program.parse text).toOption
  | .start program => some program
  | .enqueue _ | .drain | .listen _ | .run | .sendLine _ | .runText => none

/-- A call that loads a program succeeds and starts it. -/
theorem answer?_of_program
    {call : Call} {program : Program} (loads : call.program? = some program) (limit : Nat)
    (machine : Machine) :
    machine.answer? limit call = some (.done (.ok ()), machine.start program) := by
  cases call with
  | load text =>
      rcases machine.load_eq text with ⟨fault, unparsed, -⟩ | ⟨read, parsed, loaded⟩
      · rw [Call.program?, unparsed] at loads
        cases loads
      · rw [Call.program?, parsed] at loads
        cases loads
        rw [answer?, loaded]
  | start other =>
      cases loads
      rfl
  | enqueue value => cases loads
  | drain => cases loads
  | listen listener => cases loads
  | run => cases loads
  | sendLine line => cases loads
  | runText => cases loads

/-- In the call that loads a program nothing is heard. -/
theorem sight_of_program
    {call : Call} {program : Program} (loads : call.program? = some program) (limit : Nat)
    (machine : Machine) :
    (Passage.mk machine limit call).sight =
      ⟨some (.done (.ok ())), (machine.start program).unheard, []⟩ := by
  have answered := machine.answer?_of_program loads limit
  have heard : (Passage.mk machine limit call).heard = [] := by
    rw [Passage.heard, Passage.after_of_answer answered]
    exact List.drop_length
  rw [Passage.sight, heard, Passage.reply_of_answer answered, Passage.after_of_answer answered]

theorem sights_of_program
    {call : Call} {program : Program} (loads : call.program? = some program) (limit : Nat)
    (later : List (Nat × Call)) (machine : Machine) :
    (machine.passages ((limit, call) :: later)).map Passage.sight =
      ⟨some (.done (.ok ())), (machine.start program).unheard, []⟩ ::
        ((machine.start program).passages later).map Passage.sight := by
  have answered := machine.answer?_of_program loads limit
  rw [passages_of_returns (Passage.returns_of_answer answered), List.map_cons,
    sight_of_program loads, Passage.after_of_answer answered]

/-- A text that is not loaded is malformed, and leaves nothing to be seen. -/
theorem sights_of_malformed
    {machine : Machine} {text : String} {fault : Fault}
    (failed : (machine.load text).1 = .error fault) :
    (∃ cell token, fault = .malformedProgram cell token) ∧
      ∀ limit later, (machine.passages ((limit, .load text) :: later)).map Passage.sight =
        ⟨some (.done (.error fault)), machine.unheard, []⟩ ::
          (machine.passages later).map Passage.sight := by
  rcases machine.load_eq text with ⟨cause, unparsed, refused⟩ | ⟨program, -, loaded⟩
  · rw [refused] at failed
    cases failed
    refine ⟨Program.fault_of_parse_error unparsed, fun limit later => ?_⟩
    have answered : machine.answer? limit (.load text) = some (.done (.error fault), machine) := by
      rw [answer?, refused]
    have heard : (Passage.mk machine limit (.load text)).heard = [] := by
      rw [Passage.heard, Passage.after_of_answer answered]
      exact List.drop_length
    rw [passages_of_returns (Passage.returns_of_answer answered), List.map_cons, Passage.sight,
      heard, Passage.reply_of_answer answered, Passage.after_of_answer answered]
  · rw [loaded] at failed
    cases failed

/--
Reloading erases history.  Let a machine have gone through any calls.  A call that loads a program
succeeds, and in it and in all later calls the machine shows the same replies, the same registers,
memory, phase, input, output and listeners, and the same calls of listeners as one that has only got
the same listeners before.  A text that is not loaded is malformed, and then later calls show what
they would have shown without it.
-/
theorem reloading_erases_history
    {machine : Machine} {calls : List (Call × Reply)} {events : List Channel.Event}
    (history : History empty calls events machine) :
    (∀ (load : Call) program, load.program? = some program → ∀ limit later,
      (Passage.mk machine limit load).reply = some (.done (.ok ())) ∧
        (machine.passages ((limit, load) :: later)).map Passage.sight =
          ((listening (Channel.Event.subscribers events)).passages ((limit, load) :: later)).map
            Passage.sight) ∧
      ∀ text fault, (machine.load text).1 = .error fault →
        (∃ cell token, fault = .malformedProgram cell token) ∧
          ∀ limit later, (machine.passages ((limit, .load text) :: later)).map Passage.sight =
            ⟨some (.done (.error fault)), machine.unheard, []⟩ ::
              (machine.passages later).map Passage.sight := by
  refine ⟨?_, fun text fault => sights_of_malformed⟩
  intro load program loads limit later
  have listeners : machine.channel.listeners =
      (listening (Channel.Event.subscribers events)).channel.listeners := by
    rw [history.balanced.listeners, listening, foldl_listen]
    rfl
  have started := unheard_start listeners program
  refine ⟨Passage.reply_of_answer (machine.answer?_of_program loads limit), ?_⟩
  rw [sights_of_program loads, sights_of_program loads, started, sights_eq started]

/-- A program that puts out a value, writes behind its end, and meets a word without an
opcode. -/
def strays : Program :=
  ⟨[109, 5, 104, 9, 21101, 1, 2, 7, 42]⟩

/-- After a fault, with output that was not taken and input that was not read, a machine with a new
program goes on like a new machine. -/
theorem reloading_erases_history_strays :
    ∃ calls events machine, History empty calls events machine ∧ machine.phase = .faulted ∧
      machine.channel.output = #[9] ∧ machine.channel.input = [8] ∧
      (machine.passages [(0, .load "3,5,4,5,99,0"), (1, .run), (0, .enqueue 6), (3, .run)]).map
          Passage.sight =
        ((listening ["left"]).passages
          [(0, .load "3,5,4,5,99,0"), (1, .run), (0, .enqueue 6), (3, .run)]).map
            Passage.sight := by
  have answered : ∃ calls machine,
      empty.answers? [(0, .listen "left"), (0, .start strays), (0, .enqueue 8), (4, .run)] =
        some (calls, [.subscribed "left", .cleared, .enqueued 8, .emitted 9], machine) ∧
        machine.phase = .faulted ∧ machine.channel.output = #[9] ∧ machine.channel.input = [8] :=
    ⟨_, _, by rfl, by rfl, by rfl, by rfl⟩
  obtain ⟨calls, machine, answered, faulted, output, input⟩ := answered
  have history := history_of_answers answered
  obtain ⟨reloads, -⟩ := reloading_erases_history history
  have loads : (Call.load "3,5,4,5,99,0").program? = some ⟨[3, 5, 4, 5, 99, 0]⟩ := by rfl
  obtain ⟨-, same⟩ := reloads _ _ loads 0 [(1, .run), (0, .enqueue 6), (3, .run)]
  exact ⟨calls, _, machine, history, faulted, output, input, same⟩

end Machine

end Intcode
