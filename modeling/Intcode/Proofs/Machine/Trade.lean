import Intcode.Proofs.Machine.Progress

/-!
# Trade between a machine and its channel

A machine deals with its channel in one way only: it takes values from the front of the input, and
it emits values.  So a run on one channel is a run on every channel that starts with the same input
values, whatever else that channel holds; only a run that waits needs the input to be at its end.
-/

namespace Intcode

namespace Channel

/-- One channel becomes another when a machine takes some values and emits others. -/
structure Exchange (taken emitted : List Int) (before after : Channel) : Prop where
  input : before.input = taken ++ after.input
  output : after.output.toList = before.output.toList ++ emitted
  listeners : after.listeners = before.listeners
  heard :
    after.heard.toList =
      before.heard.toList ++
        emitted.flatMap fun value => before.listeners.map fun listener => (listener, value)

namespace Exchange

theorem nil_iff {before after : Channel} : Exchange [] [] before after ↔ before = after := by
  constructor
  · rintro ⟨input, output, listeners, heard⟩
    obtain ⟨input', output', listeners', heard'⟩ := before
    obtain ⟨input'', output'', listeners'', heard''⟩ := after
    have sameOutput : output'' = output' := Array.toList_inj.1 (by simpa using output)
    have sameHeard : heard'' = heard' := Array.toList_inj.1 (by simpa using heard)
    simp_all
  · rintro rfl
    exact ⟨rfl, by simp, rfl, by simp⟩

theorem trans
    {taken taken' emitted emitted' : List Int} {before middle after : Channel}
    (first : Exchange taken emitted before middle)
    (second : Exchange taken' emitted' middle after) :
    Exchange (taken ++ taken') (emitted ++ emitted') before after where
  input := by rw [first.input, second.input, List.append_assoc]
  output := by rw [second.output, first.output, List.append_assoc]
  listeners := second.listeners.trans first.listeners
  heard := by
    rw [second.heard, first.heard, first.listeners, List.append_assoc, List.flatMap_append]

/-- An exchange in two parts goes through a channel between them. -/
theorem split
    {taken taken' emitted emitted' : List Int} {before after : Channel}
    (whole : Exchange (taken ++ taken') (emitted ++ emitted') before after) :
    ∃ middle, Exchange taken emitted before middle ∧ Exchange taken' emitted' middle after := by
  let middle : Channel :=
    { input := taken' ++ after.input
      output := before.output ++ emitted.toArray
      listeners := before.listeners
      heard :=
        before.heard ++ (emitted.flatMap fun value =>
          before.listeners.map fun listener => (listener, value)).toArray }
  refine ⟨middle, ⟨?_, ?_, rfl, ?_⟩, ⟨rfl, ?_, whole.listeners, ?_⟩⟩
  · rw [whole.input, List.append_assoc]
  · simp [middle]
  · simp [middle]
  · rw [whole.output]
    simp [middle]
  · rw [whole.heard]
    simp [middle]

theorem unique
    {taken emitted : List Int} {before after other : Channel}
    (exchange : Exchange taken emitted before after)
    (again : Exchange taken emitted before other) : after = other := by
  obtain ⟨input, output, listeners, heard⟩ := exchange
  obtain ⟨input', output', listeners', heard'⟩ := again
  obtain ⟨afterInput, afterOutput, afterListeners, afterHeard⟩ := after
  obtain ⟨otherInput, otherOutput, otherListeners, otherHeard⟩ := other
  have sameInput : afterInput = otherInput := List.append_cancel_left (input.symm.trans input')
  have sameOutput : afterOutput = otherOutput := Array.toList_inj.1 (output.trans output'.symm)
  have sameHeard : afterHeard = otherHeard := Array.toList_inj.1 (heard.trans heard'.symm)
  simp_all

/-- Behind the values that are taken, the input is left. -/
theorem input_eq
    {taken rest emitted : List Int} {before after : Channel}
    (exchange : Exchange taken emitted before after) (pending : before.input = taken ++ rest) :
    after.input = rest :=
  List.append_cancel_left (exchange.input.symm.trans pending)

theorem take_iff {value : Int} {before after : Channel} :
    Exchange [value] [] before after ↔
      before.input = value :: after.input ∧ after = { before with input := after.input } := by
  constructor
  · intro exchange
    refine ⟨exchange.input, ?_⟩
    refine exchange.unique ⟨exchange.input, ?_, rfl, ?_⟩ <;> simp
  · rintro ⟨input, same⟩
    rw [same]
    refine ⟨input, ?_, rfl, ?_⟩ <;> simp

theorem emit_iff {value : Int} {before after : Channel} :
    Exchange [] [value] before after ↔ after = before.emit value := by
  have emitted : Exchange [] [value] before (before.emit value) := by
    refine ⟨rfl, ?_, rfl, ?_⟩ <;> simp [emit]
  constructor
  · exact fun exchange => exchange.unique emitted
  · rintro rfl
    exact emitted

end Exchange

end Channel

namespace Machine

def withChannel (machine : Machine) (channel : Channel) : Machine :=
  { machine with channel }

@[simp] theorem withChannel_withChannel (machine : Machine) (first second : Channel) :
    (machine.withChannel first).withChannel second = machine.withChannel second :=
  rfl

@[simp] theorem channel_withChannel (machine : Machine) (channel : Channel) :
    (machine.withChannel channel).channel = channel :=
  rfl

@[simp] theorem phase_withChannel (machine : Machine) (channel : Channel) :
    (machine.withChannel channel).phase = machine.phase :=
  rfl

@[simp] theorem operand_withChannel
    (machine : Machine) (channel : Channel) (index : Nat) (mode : Mode) :
    (machine.withChannel channel).operand index mode = machine.operand index mode := by
  cases mode <;> rfl

@[simp] theorem target_withChannel
    (machine : Machine) (channel : Channel) (index : Nat) (mode : TargetMode) :
    (machine.withChannel channel).target index mode = machine.target index mode := by
  cases mode <;> rfl

@[simp] theorem combination_withChannel
    (machine : Machine) (channel : Channel) (combiner : Combiner) (left right : Mode)
    (target : TargetMode) :
    (machine.withChannel channel).combination combiner left right target =
      machine.combination combiner left right target := by
  simp [combination]

@[simp] theorem jumpStep_withChannel
    (machine : Machine) (channel : Channel) (condition : Condition) (value destination : Mode) :
    (machine.withChannel channel).jumpStep condition value destination =
      machine.jumpStep condition value destination := by
  simp [jumpStep]

theorem settle_withChannel
    (width : Nat) (outcome : Except Fault Step) (after : Machine) (channel : Channel) :
    settle width (outcome, after.withChannel channel) =
      (settle width (outcome, after)).map (·.withChannel channel) := by
  cases outcome with
  | error fault => rfl
  | ok step =>
      cases step with
      | advance =>
          simp only [settle, withChannel]
          cases after.ip.offset? width <;> rfl
      | jump destination => rfl
      | block => rfl
      | halt => rfl

/-- Settling what follows an instruction changes the instruction pointer and the phase at most. -/
theorem reached_settle (width : Nat) (outcome : Except Fault Step) (after : Machine) :
    ∃ ip phase, (settle width (outcome, after)).reached =
      { after with ip := ip, phase := phase } := by
  cases outcome with
  | error fault => exact ⟨_, _, rfl⟩
  | ok step =>
      cases step with
      | advance =>
          simp only [settle]
          cases after.ip.offset? width with
          | some next => exact ⟨_, _, rfl⟩
          | none => exact ⟨_, _, rfl⟩
      | jump destination => exact ⟨_, _, rfl⟩
      | block => exact ⟨_, _, rfl⟩
      | halt => exact ⟨_, _, rfl⟩

@[simp] theorem channel_reached_settle
    (width : Nat) (outcome : Except Fault Step) (after : Machine) :
    (settle width (outcome, after)).reached.channel = after.channel := by
  obtain ⟨ip, phase, same⟩ := reached_settle width outcome after
  rw [same]

theorem memory_reached_settle
    (width : Nat) (outcome : Except Fault Step) (after : Machine) :
    (settle width (outcome, after)).reached.memory = after.memory := by
  obtain ⟨ip, phase, same⟩ := reached_settle width outcome after
  rw [same]

theorem waits_settle_iff {width : Nat} {outcome : Except Fault Step} {after : Machine} :
    (settle width (outcome, after)).Waits ↔ outcome = .ok .block := by
  constructor
  · intro waits
    cases outcome with
    | error fault => cases waits
    | ok step =>
        cases step with
        | advance =>
            simp only [settle] at waits
            split at waits <;> cases waits
        | jump destination => cases waits
        | block => rfl
        | halt => cases waits
  · rintro rfl
    trivial

end Machine

/-- An instruction is silent when it neither takes input nor puts out output. -/
def Instruction.Silent : Instruction → Prop
  | .input _ | .output _ => False
  | .combine .. | .jump .. | .adjustBase _ | .halt => True

namespace Machine

theorem jumpStep_ne_block
    (machine : Machine) (condition : Condition) (value destination : Mode) :
    machine.jumpStep condition value destination ≠ .ok .block := by
  unfold jumpStep
  cases machine.operand 0 value with
  | error fault => exact nofun
  | ok tested =>
      by_cases taken : condition.holds tested = true
      · simp only [bind, Except.bind, taken, if_true]
        cases machine.operand 1 destination with
        | error fault => exact nofun
        | ok goal =>
            simp only
            cases Address.locate goal <;> exact nofun
      · simp only [bind, Except.bind, taken]
        exact nofun

/-- A silent instruction does the same at every channel. -/
theorem execute_withChannel_of_silent
    (instruction : Instruction) (silent : instruction.Silent) (machine : Machine)
    (channel : Channel) :
    (machine.withChannel channel).execute instruction =
      ((machine.execute instruction).1,
        (machine.execute instruction).2.withChannel channel) := by
  cases instruction with
  | combine combiner left right target =>
      simp only [execute, combination_withChannel]
      cases machine.combination combiner left right target <;> rfl
  | jump condition value destination => simp [execute]
  | adjustBase offset =>
      simp only [execute, operand_withChannel]
      cases machine.operand 0 offset <;> rfl
  | halt => rfl
  | input target => cases silent
  | output value => cases silent

/-- A silent instruction leaves the channel as it is and does not wait. -/
theorem execute_of_silent
    (instruction : Instruction) (silent : instruction.Silent) (machine : Machine) :
    (machine.execute instruction).2.channel = machine.channel ∧
      (machine.execute instruction).1 ≠ .ok .block := by
  cases instruction with
  | combine combiner left right target =>
      simp only [execute]
      refine ⟨?_, fun blocks => ?_⟩
      · cases machine.combination combiner left right target <;> rfl
      · cases combined : machine.combination combiner left right target <;>
          rw [combined] at blocks <;> cases blocks
  | jump condition value destination => exact ⟨rfl, machine.jumpStep_ne_block _ _ _⟩
  | adjustBase offset =>
      simp only [execute]
      refine ⟨?_, fun blocks => ?_⟩
      · cases machine.operand 0 offset <;> rfl
      · cases read : machine.operand 0 offset <;> rw [read] at blocks <;> cases blocks
  | halt =>
      refine ⟨rfl, fun blocks => ?_⟩
      cases blocks
  | input target => cases silent
  | output value => cases silent

theorem execute_input_of_nil
    {machine : Machine} (empty : machine.channel.input = []) (target : TargetMode) :
    machine.execute (.input target) = (.ok .block, machine) := by
  simp [execute, Channel.dequeue, empty]

/-- An input instruction without input waits. -/
theorem turn_of_empty {machine : Machine} {target : TargetMode} (started : machine.phase = .running)
    (fetched : machine.fetch = .ok (.input target)) (empty : machine.channel.input = []) :
    machine.turn = .stopped (.ok .blocked) { machine with phase := .blocked } := by
  rw [turn_of_fetch started fetched, execute_input_of_nil empty]
  rfl

/-- An input instruction takes the first value of the input, and stores it or faults. -/
theorem execute_input_of_cons
    {machine : Machine} {value : Int} {rest : List Int}
    (pending : machine.channel.input = value :: rest) (target : TargetMode) :
    machine.execute (.input target) =
      match machine.target 0 target with
      | .error fault =>
          (.error fault, machine.withChannel { machine.channel with input := rest })
      | .ok address =>
          (.ok .advance,
            (machine.store address value).withChannel { machine.channel with input := rest }) := by
  have unmoved : ({ machine with channel := { machine.channel with input := rest } } :
      Machine).target 0 target = machine.target 0 target :=
    machine.target_withChannel _ 0 target
  simp only [execute, Channel.dequeue, pending, unmoved]
  cases machine.target 0 target <;> rfl

theorem execute_ne_block
    (instruction : Instruction) (silent : instruction.Silent) (machine : Machine) :
    (machine.execute instruction).1 ≠ .ok .block :=
  (execute_of_silent instruction silent machine).2

/-- Only an input instruction blocks, and only at the end of the input. -/
theorem execute_eq_block_iff {machine : Machine} {instruction : Instruction} :
    (machine.execute instruction).1 = .ok .block ↔
      (∃ target, instruction = .input target) ∧ machine.channel.input = [] := by
  constructor
  · intro blocks
    cases instruction with
    | input target =>
        refine ⟨⟨target, rfl⟩, ?_⟩
        cases pending : machine.channel.input with
        | nil => rfl
        | cons value rest =>
            have executed := execute_input_of_cons pending target
            rw [executed] at blocks
            cases located : machine.target 0 target <;> rw [located] at blocks <;> cases blocks
    | output mode =>
        simp only [execute] at blocks
        cases read : machine.operand 0 mode <;> rw [read] at blocks <;> cases blocks
    | combine combiner left right target =>
        exact absurd blocks (execute_ne_block (.combine combiner left right target) trivial machine)
    | jump condition value destination =>
        exact absurd blocks (execute_ne_block (.jump condition value destination) trivial machine)
    | adjustBase offset =>
        exact absurd blocks (execute_ne_block (.adjustBase offset) trivial machine)
    | halt => exact absurd blocks (execute_ne_block .halt trivial machine)
  · rintro ⟨⟨target, rfl⟩, empty⟩
    rw [execute_input_of_nil empty]

/--
A way of running a machine trades some values for others when it makes the same exchange with every
channel that has the values to take, and comes to the same at each of them.  A run that waits has
come to the end of its input, and waits only at channels where it comes to the end too.
-/
structure Trades (go : Machine → Progress Fault Machine) (machine : Machine)
    (taken emitted : List Int) : Prop where
  exchange : Channel.Exchange taken emitted machine.channel (go machine).reached.channel
  starved : (go machine).Waits → (go machine).reached.channel.input = []
  frame {before after : Channel} (exchanged : Channel.Exchange taken emitted before after)
    (starved : (go machine).Waits → after.input = []) :
    go (machine.withChannel before) = (go machine).map (·.withChannel after)

/-- Silent instructions trade nothing. -/
theorem trades_of_silent
    (instruction : Instruction) (silent : instruction.Silent) (width : Nat) (machine : Machine) :
    Trades (fun machine => settle width (machine.execute instruction)) machine [] [] where
  exchange := by
    rw [Channel.Exchange.nil_iff, channel_reached_settle]
    exact (execute_of_silent instruction silent machine).1.symm
  starved waits := absurd (waits_settle_iff.1 waits) (execute_ne_block instruction silent machine)
  frame exchanged _ := by
    rw [Channel.Exchange.nil_iff] at exchanged
    subst exchanged
    rw [execute_withChannel_of_silent instruction silent, settle_withChannel]

/-- At the end of the input an input instruction waits and trades nothing. -/
theorem trades_input_of_nil
    {machine : Machine} (empty : machine.channel.input = []) (target : TargetMode) (width : Nat) :
    Trades (fun machine => settle width (machine.execute (.input target))) machine [] [] where
  exchange := by
    rw [execute_input_of_nil empty]
    exact Channel.Exchange.nil_iff.2 rfl
  starved _ := by
    rw [execute_input_of_nil empty]
    exact empty
  frame := by
    intro before after exchanged starved
    rw [Channel.Exchange.nil_iff] at exchanged
    subst exchanged
    simp only [execute_input_of_nil empty] at starved ⊢
    rw [execute_input_of_nil (starved trivial)]
    rfl

/-- Else an input instruction trades the first value for nothing. -/
theorem trades_input_of_cons
    {machine : Machine} {value : Int} {rest : List Int}
    (pending : machine.channel.input = value :: rest) (target : TargetMode) (width : Nat) :
    Trades (fun machine => settle width (machine.execute (.input target))) machine [value] [] where
  exchange := by
    rw [Channel.Exchange.take_iff, channel_reached_settle, execute_input_of_cons pending]
    cases machine.target 0 target <;> exact ⟨pending, rfl⟩
  starved waits := by
    have blocks : (machine.execute (.input target)).1 = .ok .block := waits_settle_iff.1 waits
    rw [(execute_eq_block_iff.1 blocks).2] at pending
    cases pending
  frame := by
    intro before after exchanged _
    obtain ⟨input, same⟩ := Channel.Exchange.take_iff.1 exchanged
    have executed : (machine.withChannel before).execute (.input target) = _ :=
      execute_input_of_cons input target
    simp only [execute_input_of_cons pending, executed, target_withChannel, channel_withChannel,
      ← same]
    cases machine.target 0 target with
    | error fault => rfl
    | ok address =>
        exact settle_withChannel width (.ok .advance)
          ((machine.store address value).withChannel { machine.channel with input := rest }) after

/-- An output instruction trades nothing for its value, unless it faults. -/
theorem trades_output (mode : Mode) (width : Nat) (machine : Machine) :
    ∃ emitted,
      Trades (fun machine => settle width (machine.execute (.output mode))) machine [] emitted := by
  cases read : machine.operand 0 mode with
  | error fault =>
      refine ⟨[], ?_, ?_, ?_⟩
      · simp only [execute, read]
        exact Channel.Exchange.nil_iff.2 rfl
      · intro waits
        simp only [execute, read] at waits
        cases waits
      · intro before after exchanged _
        rw [Channel.Exchange.nil_iff] at exchanged
        subst exchanged
        simp only [execute, operand_withChannel, read]
        rfl
  | ok value =>
      refine ⟨[value], ?_, ?_, ?_⟩
      · rw [channel_reached_settle]
        simp only [execute, read]
        exact Channel.Exchange.emit_iff.2 rfl
      · intro waits
        simp only [execute, read, waits_settle_iff] at waits
        cases waits
      · intro before after exchanged _
        rw [Channel.Exchange.emit_iff] at exchanged
        subst exchanged
        simp only [execute, operand_withChannel, read]
        exact settle_withChannel width (.ok .advance)
          (machine.withChannel (machine.channel.emit value)) (before.emit value)

theorem instruction_trades (width : Nat) (machine : Machine) (instruction : Instruction) :
    ∃ taken emitted,
      Trades (fun machine => settle width (machine.execute instruction)) machine taken emitted := by
  cases instruction with
  | input target =>
      cases pending : machine.channel.input with
      | nil => exact ⟨[], [], trades_input_of_nil pending target width⟩
      | cons value rest => exact ⟨[value], [], trades_input_of_cons pending target width⟩
  | output mode =>
      obtain ⟨emitted, trades⟩ := trades_output mode width machine
      exact ⟨[], emitted, trades⟩
  | combine combiner left right target =>
      exact ⟨[], [], trades_of_silent (.combine combiner left right target) trivial width machine⟩
  | jump condition value destination =>
      exact ⟨[], [], trades_of_silent (.jump condition value destination) trivial width machine⟩
  | adjustBase offset =>
      exact ⟨[], [], trades_of_silent (.adjustBase offset) trivial width machine⟩
  | halt =>
      exact ⟨[], [], trades_of_silent .halt trivial width machine⟩

theorem trades_progress_zero (machine : Machine) : Trades (·.progress 0) machine [] [] where
  exchange := Channel.Exchange.nil_iff.2 rfl
  starved := nofun
  frame exchanged _ := by
    rw [Channel.Exchange.nil_iff] at exchanged
    subst exchanged
    rfl

/-- A turn that stops is all that any further number of turns trades. -/
theorem Trades.of_stopped
    {machine last : Machine} {taken emitted : List Int} {result : Except Fault Phase}
    (first : Trades turn machine taken emitted) (turned : machine.turn = .stopped result last)
    (count : Nat) :
    Trades (·.progress (count + 1)) machine taken emitted := by
  have same : machine.progress (count + 1) = machine.turn := by
    rw [progress_of_turn_stopped turned, turned]
  refine ⟨?_, ?_, ?_⟩
  · rw [same]
    exact first.exchange
  · rw [same]
    exact first.starved
  · intro before after exchanged starved
    rw [same] at starved ⊢
    have framed := first.frame exchanged starved
    rw [turned] at framed ⊢
    exact progress_of_turn_stopped framed count

/-- A turn that goes on trades first, and the further turns after it. -/
theorem Trades.andThen
    {machine next : Machine} {taken taken' emitted emitted' : List Int} {count : Nat}
    (first : Trades turn machine taken emitted) (turned : machine.turn = .running next)
    (further : Trades (·.progress count) next taken' emitted') :
    Trades (·.progress (count + 1)) machine (taken ++ taken') (emitted ++ emitted') := by
  have same := progress_of_turn_running turned count
  refine ⟨?_, ?_, ?_⟩
  · have exchange := first.exchange
    rw [turned] at exchange
    rw [same]
    exact exchange.trans further.exchange
  · rw [same]
    exact further.starved
  · intro before after exchanged starved
    rw [same] at starved ⊢
    obtain ⟨middle, exchanged, exchanged'⟩ := exchanged.split
    have goes : machine.turn.Waits → middle.input = [] := by
      rw [turned]
      exact nofun
    have framed := first.frame exchanged goes
    rw [turned] at framed
    rw [progress_of_turn_running framed]
    exact further.frame exchanged' starved

/-- Each turn of a running machine is a trade. -/
theorem turn_trades {machine : Machine} (started : machine.phase = .running) :
    ∃ taken emitted, Trades turn machine taken emitted := by
  cases fetched : machine.fetch with
  | error fault =>
      have stopped := turn_of_fetch_error fetched
      refine ⟨[], [], ?_, ?_, ?_⟩
      · rw [stopped]
        exact Channel.Exchange.nil_iff.2 rfl
      · rw [stopped]
        exact nofun
      · intro before after exchanged _
        rw [Channel.Exchange.nil_iff] at exchanged
        subst exchanged
        have refetched : (machine.withChannel before).fetch = .error fault := fetched
        rw [stopped, turn_of_fetch_error refetched]
        rfl
  | ok instruction =>
      obtain ⟨taken, emitted, trades⟩ := instruction_trades instruction.width machine instruction
      have settled := turn_of_fetch started fetched
      refine ⟨taken, emitted, ?_, ?_, ?_⟩
      · rw [settled]
        exact trades.exchange
      · rw [settled]
        exact trades.starved
      · intro before after exchanged starved
        have refetched : (machine.withChannel before).fetch = .ok instruction := fetched
        rw [settled] at starved ⊢
        have resettled : (machine.withChannel before).turn = _ := turn_of_fetch started refetched
        rw [resettled]
        exact trades.frame exchanged starved

theorem progress_trades
    {machine : Machine} (started : machine.phase = .running) (count : Nat) :
    ∃ taken emitted, Trades (·.progress count) machine taken emitted := by
  induction count generalizing machine with
  | zero => exact ⟨[], [], trades_progress_zero machine⟩
  | succ count ih =>
      obtain ⟨taken, emitted, first⟩ := turn_trades started
      cases turned : machine.turn with
      | stopped result last => exact ⟨taken, emitted, first.of_stopped turned count⟩
      | running next =>
          obtain ⟨taken', emitted', further⟩ := ih (phase_of_turn_running turned)
          exact ⟨taken ++ taken', emitted ++ emitted', first.andThen turned further⟩

end Machine

end Intcode
