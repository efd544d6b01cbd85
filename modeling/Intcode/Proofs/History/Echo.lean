import Intcode.Proofs.History.Passages
import Intcode.Proofs.History.Reload
import Intcode.Proofs.Machine.Stepping

/-!
# The echo program

A program that takes a value, puts it out and goes back to its start relays whatever it is sent.
However the values are cut into chunks, and whenever the program is run and drained, each run
waits at the start again when all that was sent has been put out.
-/

namespace Intcode

namespace Machine

/-! ## Rounds of the program -/

/-- The code of the program: take a value to cell 7, put it out, and go back to the start.  Cell 7
lies right behind the code. -/
def echoCode : List Int :=
  [3, 7, 4, 7, 1105, 1, 0]

def echoCell : Address :=
  ⟨7, by decide⟩

structure AtEcho (machine : Machine) (position : Nat) : Prop where
  code : machine.memory.Holds echoCode
  ip : machine.ip.toNat = position

section Rounds

variable {machine : Machine}

theorem AtEcho.follows {position : Nat} (echo : machine.AtEcho position)
    (started : machine.phase = .running) : machine.Follows echoCode position :=
  ⟨echo.code, echo.ip, started⟩

/-- One round takes a value and puts it out. -/
theorem AtEcho.round {value : Int} {rest : List Int} (echo : machine.AtEcho 0)
    (started : machine.phase = .running) (pending : machine.channel.input = value :: rest) :
    ∃ next : Machine, (∀ count, machine.progress (count + 3) = next.progress count) ∧
      next.AtEcho 0 ∧ next.phase = .running ∧
      Channel.Exchange [value] [value] machine.channel next.channel := by
  obtain ⟨taken, took, atOutput, memory, takes⟩ :=
    (echo.follows started).input echoCell rfl rfl (by decide) pending
  have read : taken.operand 0 .position = .ok value := by
    rw [atOutput.stored echoCell rfl, memory, Memory.read_write, if_pos rfl]
  obtain ⟨told, put, atJump, -, tells⟩ :=
    atOutput.output .position rfl read (by decide) (by decide)
  obtain ⟨next, jumped, again, -, same⟩ :=
    atJump.jump .nonzero .immediate .immediate .zero rfl (atJump.immediate rfl)
      (atJump.immediate rfl) (by decide) (by decide)
  refine ⟨next, fun count => ?_, ⟨again.holds, again.ip⟩, again.started, ?_⟩
  · rw [progress_of_turn_running took, progress_of_turn_running put,
      progress_of_turn_running jumped]
  · rw [same]
    exact takes.trans tells

/-- A run puts out all of its input, and waits at the start for more. -/
theorem AtEcho.progress (echo : machine.AtEcho 0) (started : machine.phase = .running) :
    ∃ last, machine.progress (3 * machine.channel.input.length + 1) =
        .stopped (.ok .blocked) last ∧
      last.AtEcho 0 ∧ last.phase = .blocked ∧ last.channel.input = [] ∧
      Channel.Exchange machine.channel.input machine.channel.input machine.channel
        last.channel := by
  generalize pending : machine.channel.input = values
  induction values generalizing machine with
  | nil =>
      have fetched : machine.fetch = .ok (.input .position) := (echo.follows started).fetch rfl
      refine ⟨_, progress_of_turn_stopped (turn_of_empty started fetched pending) 0,
        ⟨echo.code, echo.ip⟩, rfl, pending, Channel.Exchange.nil_iff.2 rfl⟩
  | cons value rest ih =>
      obtain ⟨next, goes, echo', started', exchange⟩ := echo.round started pending
      have left : next.channel.input = rest := exchange.input_eq pending
      obtain ⟨last, stopped, atStart, blocked, empty, further⟩ := ih echo' started' left
      refine ⟨last, ?_, atStart, blocked, empty, exchange.trans further⟩
      rw [List.length_cons, Nat.mul_succ, Nat.add_right_comm, goes, stopped]

theorem AtEcho.run (echo : machine.AtEcho 0) (live : machine.phase.isStopped = false) {limit : Nat}
    (enough : 3 * machine.channel.input.length < limit) :
    ∃ after, machine.run limit = some (.ok .blocked, after) ∧
      after.AtEcho 0 ∧ after.phase = .blocked ∧ after.channel.input = [] ∧
      Channel.Exchange machine.channel.input machine.channel.input machine.channel
        after.channel := by
  have started : machine.resume.phase = .running := rfl
  have echo' : machine.resume.AtEcho 0 := ⟨echo.code, echo.ip⟩
  obtain ⟨last, stopped, atStart, blocked, empty, exchange⟩ := echo'.progress started
  have ran : machine.run (3 * machine.channel.input.length + 1) =
      some (.ok .blocked, last) := run_of_progress_stopped live stopped
  exact ⟨last, run_mono ran enough, atStart, blocked, empty, exchange⟩

end Rounds

/-! ## Relaying values -/

/-- The calls by which values are relayed: one that sends a value, drains, and runs. -/
inductive Call.Relays : Call → Prop where
  | enqueue (value : Int) : Relays (.enqueue value)
  | drain : Relays .drain
  | run : Relays .run

def Call.sent : Call → List Int
  | .enqueue value => [value]
  | .sendLine line => lineCodes line
  | .load _ | .start _ | .drain | .listen _ | .run | .runText => []

def Reply.drained : Reply → List Int
  | .values taken => taken
  | .transcript (.ok told) => told.codes
  | .done _ | .phase _ | .transcript (.error _) => []

def Passage.drained (passage : Passage) : List Int :=
  passage.reply.toList.flatMap Reply.drained

/--
A machine relays what it is sent: all of it was drained, can be drained or is still in the input,
and all but the input was heard by each listener, on top of what was heard before.
-/
structure Relaying (names : List String) (before : List (String × Int))
    (sent drained : List Int) (machine : Machine) : Prop where
  echo : machine.AtEcho 0
  live : machine.phase.isStopped = false
  passed : sent = drained ++ machine.channel.output.toList ++ machine.channel.input
  listeners : machine.channel.listeners = names
  heard : machine.channel.heard.toList =
    before ++ (drained ++ machine.channel.output.toList).flatMap fun value =>
      names.map fun listener => (listener, value)

section Relaying

variable {names : List String} {before : List (String × Int)} {sent drained : List Int}
  {machine : Machine} {limit : Nat}

theorem Relaying.enqueue (relaying : Relaying names before sent drained machine) (value : Int) :
    ∃ after, machine.enqueue value = (.ok (), after) ∧
      Relaying names before (sent ++ [value]) drained after := by
  refine ⟨_, enqueueAll_of_not_faulted (ne_faulted_of_live relaying.live) [value],
    ⟨relaying.echo.code, relaying.echo.ip⟩, relaying.live, ?_, relaying.listeners,
    relaying.heard⟩
  rw [relaying.passed, List.append_assoc]
  rfl

theorem Relaying.drain (relaying : Relaying names before sent drained machine) :
    Relaying names before sent (drained ++ machine.drain.1) machine.drain.2 where
  echo := ⟨relaying.echo.code, relaying.echo.ip⟩
  live := relaying.live
  passed := by
    rw [relaying.passed]
    exact congrArg (· ++ machine.channel.input) (List.append_nil _).symm
  listeners := relaying.listeners
  heard := by
    have emptied : machine.drain.2.channel.output.toList = [] := rfl
    rw [emptied, List.append_nil]
    exact relaying.heard

theorem Relaying.run (relaying : Relaying names before sent drained machine)
    (enough : 3 * sent.length < limit) :
    ∃ after, machine.run limit = some (.ok .blocked, after) ∧ after.channel.input = [] ∧
      Relaying names before sent drained after := by
  have bounded : machine.channel.input.length ≤ sent.length := by
    rw [relaying.passed, List.length_append]
    exact Nat.le_add_left _ _
  have inTime : 3 * machine.channel.input.length < limit := by omega
  obtain ⟨after, ran, echo, blocked, empty, exchange⟩ := relaying.echo.run relaying.live inTime
  refine ⟨after, ran, empty, echo, congrArg Phase.isStopped blocked, ?_,
    exchange.listeners.trans relaying.listeners, ?_⟩
  · rw [relaying.passed, exchange.output, empty, List.append_nil, List.append_assoc]
  · rw [exchange.heard, exchange.output, relaying.heard, relaying.listeners]
    simp only [List.flatMap_append, List.append_assoc]

/-- Each call is answered, and what is relayed stays in order. -/
theorem Relaying.answer? {call : Call} (relaying : Relaying names before sent drained machine)
    (relays : call.Relays) (enough : 3 * sent.length < limit) :
    ∃ reply after, machine.answer? limit call = some (reply, after) ∧
      Relaying names before (sent ++ call.sent) (drained ++ reply.drained) after ∧
      (call = .run → reply = .phase (.ok .blocked) ∧ after.channel.input = []) := by
  cases relays with
  | enqueue value =>
      obtain ⟨after, accepted, further⟩ := relaying.enqueue value
      refine ⟨.done (.ok ()), after, ?_, ?_, fun isRun => ?_⟩
      · rw [Machine.answer?, accepted]
      · rw [Reply.drained, List.append_nil]
        exact further
      · cases isRun
  | drain =>
      refine ⟨.values machine.drain.1, machine.drain.2, rfl, ?_, fun isRun => ?_⟩
      · rw [Call.sent, List.append_nil]
        exact relaying.drain
      · cases isRun
  | run =>
      obtain ⟨after, ran, empty, further⟩ := relaying.run enough
      refine ⟨.phase (.ok .blocked), after, ?_, ?_, fun _ => ⟨rfl, empty⟩⟩
      · rw [Machine.answer?, ran]
        rfl
      · rw [Call.sent, Reply.drained, List.append_nil, List.append_nil]
        exact further

/-- A schedule is answered to its end, and each of its runs leaves nothing in the input. -/
theorem Relaying.passages {calls : List Call}
    (relaying : Relaying names before sent drained machine)
    (relays : ∀ call ∈ calls, call.Relays)
    (enough : 3 * (sent ++ calls.flatMap Call.sent).length < limit) :
    (machine.passages (calls.map (limit, ·))).map Passage.call = calls ∧
      ∀ earlier passage later,
        machine.passages (calls.map (limit, ·)) = earlier ++ passage :: later →
        passage.call = .run →
          passage.reply = some (.phase (.ok .blocked)) ∧ passage.after.channel.input = [] ∧
            Relaying names before (sent ++ earlier.flatMap (·.call.sent))
              (drained ++ earlier.flatMap Passage.drained) passage.after := by
  induction calls generalizing machine sent drained with
  | nil =>
      refine ⟨rfl, fun earlier passage later split => ?_⟩
      cases earlier <;> cases split
  | cons call rest ih =>
      have enoughNow : 3 * sent.length < limit := by
        rw [List.length_append] at enough
        omega
      obtain ⟨reply, after, answered, further, ran⟩ :=
        relaying.answer? (relays call List.mem_cons_self) enoughNow
      -- what the first call sends and drains counts as sent and drained for the rest
      rw [List.flatMap_cons, ← List.append_assoc] at enough
      obtain ⟨called, runs⟩ := ih further
        (fun other later => relays other (List.mem_cons_of_mem _ later)) enough
      have returns : (Passage.mk machine limit call).returns = true :=
        Passage.returns_of_answer answered
      have replied : (Passage.mk machine limit call).reply = some reply :=
        Passage.reply_of_answer answered
      have left : (Passage.mk machine limit call).after = after :=
        Passage.after_of_answer answered
      have handed : (Passage.mk machine limit call).drained = reply.drained := by
        rw [Passage.drained, replied, Option.toList_some, List.flatMap_singleton]
      rw [List.map_cons, passages_of_returns returns, left]
      refine ⟨by rw [List.map_cons, called], ?_⟩
      intro earlier passage later split isRun
      cases earlier with
      | nil =>
          obtain ⟨rfl, rfl⟩ := List.cons.inj split
          obtain ⟨blocked, empty⟩ := ran isRun
          rw [replied, left, blocked]
          refine ⟨rfl, empty, ?_⟩
          obtain rfl : call = .run := isRun
          rw [blocked] at further
          exact further
      | cons first earlier =>
          obtain ⟨rfl, rest⟩ := List.cons.inj split
          obtain ⟨blocked, empty, relayed⟩ := runs earlier passage later rest isRun
          refine ⟨blocked, empty, ?_⟩
          rw [List.flatMap_cons, List.flatMap_cons, handed, ← List.append_assoc,
            ← List.append_assoc]
          exact relayed

end Relaying

/-- A machine with the program just loaded relays what it is sent from then on. -/
theorem relaying_start (machine : Machine) (listeners : List String) :
    Relaying (machine.channel.listeners ++ listeners) machine.channel.heard.toList [] []
      (listeners.foldl listen (machine.start ⟨echoCode ++ [0]⟩)) := by
  rw [foldl_listen]
  exact ⟨⟨Memory.holds_ofList (by decide) [0], rfl⟩, rfl, rfl, rfl, (List.append_nil _).symm⟩

theorem load_echo (machine : Machine) :
    machine.load "3,7,4,7,1105,1,0,0" = (.ok (), machine.start ⟨echoCode ++ [0]⟩) := by
  have parsed : Program.parse "3,7,4,7,1105,1,0,0" = .ok ⟨echoCode ++ [0]⟩ := by
    decide +kernel
  rw [load, parsed]

/--
The echo law.  Load the program, and let any listeners subscribe; then send values, drain and run in
any order, so with the values cut into any chunks.  Every call is answered, and every run waits at
the start with all of its input taken.  What was drained by then and what is left in the output are
the values that were sent by then, in order, and the listeners heard the same values.
-/
theorem echo_law (machine : Machine) (listeners : List String) :
    ∃ loaded, machine.load "3,7,4,7,1105,1,0,0" = (.ok (), loaded) ∧
      ∀ (calls : List Call) limit, (∀ call ∈ calls, call.Relays) →
        3 * (calls.flatMap Call.sent).length < limit →
          ((listeners.foldl listen loaded).passages (calls.map (limit, ·))).map Passage.call =
              calls ∧
            ∀ earlier passage later,
              (listeners.foldl listen loaded).passages (calls.map (limit, ·)) =
                  earlier ++ passage :: later →
              passage.call = .run →
                passage.reply = some (.phase (.ok .blocked)) ∧ passage.after.ip = .zero ∧
                  passage.after.pending = 0 ∧
                  earlier.flatMap Passage.drained ++ passage.after.channel.output.toList =
                    earlier.flatMap (·.call.sent) ∧
                  passage.after.channel.heard.toList =
                    machine.channel.heard.toList ++
                      (earlier.flatMap (·.call.sent)).flatMap fun value =>
                        (machine.channel.listeners ++ listeners).map fun listener =>
                          (listener, value) := by
  refine ⟨_, load_echo machine, fun calls limit relays enough => ?_⟩
  obtain ⟨called, runs⟩ := (relaying_start machine listeners).passages relays enough
  refine ⟨called, fun earlier passage later split isRun => ?_⟩
  obtain ⟨blocked, empty, relaying⟩ := runs earlier passage later split isRun
  have passed := relaying.passed
  rw [empty, List.append_nil, List.nil_append, List.nil_append] at passed
  refine ⟨blocked, Address.ext relaying.echo.ip, ?_, passed.symm, ?_⟩
  · rw [pending, Channel.pending, empty, List.length_nil]
  · rw [passed]
    exact relaying.heard

def threeValues : List Call :=
  [.enqueue 7, .enqueue (-1), .run, .drain, .run, .enqueue (10 ^ 30)]

/-- When the program is run once more, all three have been put out, and a listener heard them. -/
theorem echo_law_three_values :
    ∃ loaded earlier last, empty.load "3,7,4,7,1105,1,0,0" = (.ok (), loaded) ∧
      (["left"].foldl listen loaded).passages ((threeValues ++ [Call.run]).map (10, ·)) =
        earlier ++ [last] ∧
      last.reply = some (.phase (.ok .blocked)) ∧
      earlier.flatMap Passage.drained ++ last.after.channel.output.toList = [7, -1, 10 ^ 30] ∧
      last.after.channel.heard.toList = [("left", 7), ("left", -1), ("left", 10 ^ 30)] := by
  obtain ⟨loaded, loads, law⟩ := echo_law empty ["left"]
  have relays : ∀ call ∈ threeValues ++ [Call.run], call.Relays := by
    simp only [threeValues, List.cons_append, List.nil_append, List.forall_mem_cons,
      List.not_mem_nil, false_implies, implies_true, and_true]
    exact ⟨.enqueue _, .enqueue _, .run, .drain, .run, .enqueue _, .run⟩
  obtain ⟨called, runs⟩ := law _ 10 relays (by decide)
  obtain ⟨earlier, final, split, first, lastly⟩ := List.map_eq_append_iff.1 called
  obtain ⟨last, rfl, isRun⟩ := List.map_eq_singleton_iff.1 lastly
  obtain ⟨blocked, -, -, relayed, heard⟩ := runs earlier last [] split isRun
  have sent : earlier.flatMap (·.call.sent) = [7, -1, 10 ^ 30] := by
    rw [← List.flatMap_map Passage.call Call.sent, first]
    rfl
  rw [sent] at relayed heard
  exact ⟨loaded, earlier, last, loads, split, blocked, relayed, heard⟩

end Machine

end Intcode
