import Mathlib.Algebra.Group.Int.Defs
import Mathlib.Algebra.Group.Nat.Defs
import Intcode.Proofs.Machine.Trade

/-!
# What a turn comes to

A turn comes to one of seven things.  The word at the instruction pointer does not decode; a number
that the instruction takes as an address is none; the instruction takes effect and the next one
follows, or no next one fits into the address space; it jumps; it waits for input; or it halts.
Each of them is listed here with all that it does to the machine, so that what holds of every turn
is proved by going through the list.
-/

namespace Intcode

namespace Address

def isOutside (value : Int) : Bool :=
  value < 0 || 2 ^ 64 ≤ value

theorem isOutside_iff {value : Int} : isOutside value = true ↔ value < 0 ∨ 2 ^ 64 ≤ value := by
  simp [isOutside]

def firstOutside? (values : List Int) : Option Int :=
  values.find? isOutside

theorem firstOutside?_append (first second : List Int) :
    firstOutside? (first ++ second) = (firstOutside? first).or (firstOutside? second) :=
  List.find?_append

theorem isOutside_of_first {values : List Int} {value : Int}
    (first : firstOutside? values = some value) : isOutside value = true :=
  List.find?_some first

theorem isOutside_of_locate_error {value : Int} {fault : Fault}
    (unlocated : locate value = .error fault) :
    isOutside value = true ∧ fault = .invalidAddress value := by
  obtain ⟨outside, rfl⟩ := locate_eq_error_iff.1 unlocated
  refine ⟨isOutside_iff.2 ?_, rfl⟩
  rcases outside with negative | large
  · exact .inl negative
  · exact .inr large

theorem not_isOutside_of_locate_ok {value : Int} {address : Address}
    (located : locate value = .ok address) : isOutside value = false := by
  have same := locate_eq_ok_iff.1 located
  have inside := address.isLt
  rw [← Bool.not_eq_true, isOutside_iff]
  omega

end Address

def Instruction.takesInput : Instruction → Bool
  | .input _ => true
  | .combine .. | .output _ | .jump .. | .adjustBase _ | .halt => false

namespace Machine

/-! ## Addresses that an instruction examines -/

/-- The number that a parameter gives as an address.  An immediate parameter gives none. -/
def reference? (machine : Machine) (index : Nat) : Mode → Option Int
  | .position => some (machine.parameter index)
  | .immediate => none
  | .relative => some (machine.base + machine.parameter index)

/-- A jump is taken when its first operand can be read and meets the condition. -/
def takesJump (machine : Machine) (condition : Condition) (value : Mode) : Bool :=
  match machine.operand 0 value with
  | .error _ => false
  | .ok tested => condition.holds tested

/-- The numbers that an instruction takes as addresses, in the order in which it examines them: the
operands, and then the target.  An input instruction that waits examines none, and a jump examines
its second operand and where that leads only if it is taken. -/
def references (machine : Machine) : Instruction → List Int
  | .combine _ left right target =>
      (machine.reference? 0 left).toList ++
        ((machine.reference? 1 right).toList ++ (machine.reference? 2 target.toMode).toList)
  | .input target =>
      if machine.channel.input = [] then [] else (machine.reference? 0 target.toMode).toList
  | .output value => (machine.reference? 0 value).toList
  | .jump condition value destination =>
      (machine.reference? 0 value).toList ++
        if machine.takesJump condition value then
          (machine.reference? 1 destination).toList ++
            (machine.operand 1 destination).toOption.toList
        else
          []
  | .adjustBase offset => (machine.reference? 0 offset).toList
  | .halt => []

/-- A fault names the first number of a list that is no address. -/
def Names (fault : Fault) (values : List Int) : Prop :=
  ∃ value, fault = .invalidAddress value ∧ Address.firstOutside? values = some value

theorem Names.append {fault : Fault} {first : List Int} (named : Names fault first)
    (second : List Int) : Names fault (first ++ second) := by
  obtain ⟨value, rfl, found⟩ := named
  refine ⟨value, rfl, ?_⟩
  rw [Address.firstOutside?_append, found]
  rfl

theorem Names.after {fault : Fault} {first second : List Int}
    (inside : Address.firstOutside? first = none) (named : Names fault second) :
    Names fault (first ++ second) := by
  obtain ⟨value, rfl, found⟩ := named
  refine ⟨value, rfl, ?_⟩
  rw [Address.firstOutside?_append, inside, found]
  rfl

theorem names_of_locate_error {value : Int} {fault : Fault}
    (unlocated : Address.locate value = .error fault) : Names fault [value] := by
  obtain ⟨outside, rfl⟩ := Address.isOutside_of_locate_error unlocated
  refine ⟨value, rfl, ?_⟩
  simp [Address.firstOutside?, outside]

theorem firstOutside?_of_locate_ok {value : Int} {address : Address}
    (located : Address.locate value = .ok address) : Address.firstOutside? [value] = none := by
  simp [Address.firstOutside?, Address.not_isOutside_of_locate_ok located]

theorem locate_of_readAt_error {memory : Memory} {value : Int} {fault : Fault}
    (unread : memory.readAt value = .error fault) : Address.locate value = .error fault := by
  unfold Memory.readAt at unread
  cases located : Address.locate value with
  | error cause =>
      rw [located] at unread
      cases unread
      rfl
  | ok address =>
      rw [located] at unread
      cases unread

theorem locate_of_readAt_ok {memory : Memory} {value found : Int}
    (read : memory.readAt value = .ok found) : ∃ address, Address.locate value = .ok address := by
  unfold Memory.readAt at read
  cases located : Address.locate value with
  | error cause =>
      rw [located] at read
      cases read
  | ok address => exact ⟨address, rfl⟩

/-- An operand that cannot be read is looked for at a number that is no address. -/
theorem names_of_operand_error
    {machine : Machine} {index : Nat} {mode : Mode} {fault : Fault}
    (unread : machine.operand index mode = .error fault) :
    Names fault (machine.reference? index mode).toList := by
  cases mode with
  | position => exact names_of_locate_error (locate_of_readAt_error unread)
  | immediate => cases unread
  | relative => exact names_of_locate_error (locate_of_readAt_error unread)

theorem firstOutside?_of_operand_ok
    {machine : Machine} {index : Nat} {mode : Mode} {found : Int}
    (read : machine.operand index mode = .ok found) :
    Address.firstOutside? (machine.reference? index mode).toList = none := by
  cases mode with
  | position =>
      obtain ⟨address, located⟩ := locate_of_readAt_ok read
      exact firstOutside?_of_locate_ok located
  | immediate => rfl
  | relative =>
      obtain ⟨address, located⟩ := locate_of_readAt_ok read
      exact firstOutside?_of_locate_ok located

/-- A target that is not found is looked for at a number that is no address. -/
theorem names_of_target_error
    {machine : Machine} {index : Nat} {mode : TargetMode} {fault : Fault}
    (unfound : machine.target index mode = .error fault) :
    Names fault (machine.reference? index mode.toMode).toList := by
  cases mode with
  | position => exact names_of_locate_error unfound
  | relative => exact names_of_locate_error unfound

/-! ## Executing an instruction -/

/--
What an instruction does, apart from going on behind itself: it stores a result or a value of the
input, puts out a value that every listener hears, moves the base, or passes over a jump.
-/
inductive Effect (before : Machine) : Instruction → Machine → Prop where
  | combine {combiner : Combiner} {left right : Mode} {target : TargetMode}
      {leftValue rightValue : Int} {address : Address}
      (readLeft : before.operand 0 left = .ok leftValue)
      (readRight : before.operand 1 right = .ok rightValue)
      (found : before.target 2 target = .ok address) :
      Effect before (.combine combiner left right target)
        (before.store address (combiner.apply leftValue rightValue))
  | input {target : TargetMode} {value : Int} {rest : List Int} {address : Address}
      (pending : before.channel.input = value :: rest)
      (found : before.target 0 target = .ok address) :
      Effect before (.input target)
        ((before.store address value).withChannel { before.channel with input := rest })
  | output {mode : Mode} {value : Int} (read : before.operand 0 mode = .ok value) :
      Effect before (.output mode) (before.withChannel (before.channel.emit value))
  | pass {condition : Condition} {value destination : Mode} {tested : Int}
      (read : before.operand 0 value = .ok tested) (fails : condition.holds tested = false) :
      Effect before (.jump condition value destination) before
  | adjustBase {mode : Mode} {offset : Int} (read : before.operand 0 mode = .ok offset) :
      Effect before (.adjustBase mode) { before with base := before.base + offset }

/--
What is gone when an instruction examines a number that is no address: an input instruction has
taken the first value of the input by then, and any other instruction has done nothing.
-/
inductive Spent (before : Machine) : Instruction → Machine → Prop where
  | input {target : TargetMode} {value : Int} {rest : List Int}
      (pending : before.channel.input = value :: rest) :
      Spent before (.input target) (before.withChannel { before.channel with input := rest })
  | other {instruction : Instruction} (other : instruction.takesInput = false) :
      Spent before instruction before

inductive Executes (before : Machine) : Instruction → Except Fault Step × Machine → Prop where
  | missed {instruction : Instruction} {fault : Fault} {after : Machine}
      (named : Names fault (before.references instruction))
      (spent : Spent before instruction after) : Executes before instruction (.error fault, after)
  | advance {instruction : Instruction} {after : Machine}
      (effect : Effect before instruction after) :
      Executes before instruction (.ok .advance, after)
  | jump {condition : Condition} {value destination : Mode} {tested goal : Int} {address : Address}
      (readValue : before.operand 0 value = .ok tested) (holds : condition.holds tested = true)
      (readGoal : before.operand 1 destination = .ok goal)
      (found : Address.locate goal = .ok address) :
      Executes before (.jump condition value destination) (.ok (.jump address), before)
  | block {target : TargetMode} (empty : before.channel.input = []) :
      Executes before (.input target) (.ok .block, before)
  | halt : Executes before .halt (.ok .halt, before)

theorem executes_combine
    (machine : Machine) (combiner : Combiner) (left right : Mode) (target : TargetMode) :
    machine.Executes (.combine combiner left right target)
      (machine.execute (.combine combiner left right target)) := by
  simp only [execute, combination]
  cases readLeft : machine.operand 0 left with
  | error fault =>
      exact .missed ((names_of_operand_error readLeft).append _) (.other rfl)
  | ok leftValue =>
      have insideLeft := firstOutside?_of_operand_ok readLeft
      cases readRight : machine.operand 1 right with
      | error fault =>
          exact .missed (.after insideLeft ((names_of_operand_error readRight).append _))
            (.other rfl)
      | ok rightValue =>
          have insideRight := firstOutside?_of_operand_ok readRight
          cases found : machine.target 2 target with
          | error fault =>
              exact .missed (.after insideLeft (.after insideRight (names_of_target_error found)))
                (.other rfl)
          | ok address => exact .advance (.combine readLeft readRight found)

theorem executes_input (machine : Machine) (target : TargetMode) :
    machine.Executes (.input target) (machine.execute (.input target)) := by
  cases pending : machine.channel.input with
  | nil =>
      rw [execute_input_of_nil pending]
      exact .block pending
  | cons value rest =>
      rw [execute_input_of_cons pending]
      cases found : machine.target 0 target with
      | error fault =>
          have waits : machine.channel.input ≠ [] := by simp [pending]
          have named : Names fault (machine.references (.input target)) := by
            simp only [references, if_neg waits]
            exact names_of_target_error found
          exact .missed named (.input pending)
      | ok address => exact .advance (.input pending found)

theorem executes_jump
    (machine : Machine) (condition : Condition) (value destination : Mode) :
    machine.Executes (.jump condition value destination)
      (machine.execute (.jump condition value destination)) := by
  simp only [execute, jumpStep]
  cases readValue : machine.operand 0 value with
  | error fault => exact .missed ((names_of_operand_error readValue).append _) (.other rfl)
  | ok tested =>
      have insideValue := firstOutside?_of_operand_ok readValue
      cases holds : condition.holds tested with
      | false =>
          simp only [bind, Except.bind, holds]
          exact .advance (.pass readValue holds)
      | true =>
          have taken : machine.takesJump condition value = true := by
            simp only [takesJump, readValue, holds]
          simp only [bind, Except.bind, holds, if_true]
          cases readGoal : machine.operand 1 destination with
          | error fault =>
              refine .missed (.after insideValue ?_) (.other rfl)
              rw [if_pos taken]
              exact (names_of_operand_error readGoal).append _
          | ok goal =>
              simp only
              cases found : Address.locate goal with
              | error fault =>
                  refine .missed (.after insideValue ?_) (.other rfl)
                  rw [if_pos taken, readGoal]
                  exact .after (firstOutside?_of_operand_ok readGoal)
                    (names_of_locate_error found)
              | ok address => exact .jump readValue holds readGoal found

/-- Executing an instruction comes to one of these. -/
theorem executes_execute (machine : Machine) (instruction : Instruction) :
    machine.Executes instruction (machine.execute instruction) := by
  cases instruction with
  | combine combiner left right target =>
      exact machine.executes_combine combiner left right target
  | input target => exact machine.executes_input target
  | output mode =>
      simp only [execute]
      cases read : machine.operand 0 mode with
      | error fault => exact .missed (names_of_operand_error read) (.other rfl)
      | ok value => exact .advance (.output read)
  | jump condition value destination => exact machine.executes_jump condition value destination
  | adjustBase mode =>
      simp only [execute]
      cases read : machine.operand 0 mode with
      | error fault => exact .missed (names_of_operand_error read) (.other rfl)
      | ok offset => exact .advance (.adjustBase read)
  | halt => exact .halt

/-- An effect comes about whenever the instruction finds what it examines. -/
theorem Effect.execute_eq
    {before after : Machine} {instruction : Instruction}
    (effect : Effect before instruction after) :
    before.execute instruction = (.ok .advance, after) := by
  cases effect with
  | combine readLeft readRight found =>
      simp [execute, combination, readLeft, readRight, found, bind, Except.bind, pure, Except.pure]
  | input pending found => rw [execute_input_of_cons pending, found]
  | output read =>
      simp only [execute, read]
      rfl
  | pass read fails =>
      simp [execute, jumpStep, read, fails, bind, Except.bind, pure, Except.pure]
  | adjustBase read => simp only [execute, read]

theorem Effect.ip {before after : Machine} {instruction : Instruction}
    (effect : Effect before instruction after) : after.ip = before.ip := by
  cases effect <;> rfl

theorem Spent.ip {before after : Machine} {instruction : Instruction}
    (spent : Spent before instruction after) : after.ip = before.ip := by
  cases spent <;> rfl

/-! ## A turn -/

inductive TurnsTo (machine : Machine) : Progress Fault Machine → Prop where
  | undecodable {fault : Fault} (unfetched : machine.fetch = .error fault) :
      TurnsTo machine (.stopped (.error fault) { machine with phase := .faulted })
  | missed {instruction : Instruction} {fault : Fault} {spent : Machine}
      (fetched : machine.fetch = .ok instruction)
      (named : Names fault (machine.references instruction))
      (spends : Spent machine instruction spent) :
      TurnsTo machine (.stopped (.error fault) { spent with phase := .faulted })
  | advanced {instruction : Instruction} {effected : Machine} {next : Address}
      (fetched : machine.fetch = .ok instruction) (effect : Effect machine instruction effected)
      (inside : next.toNat = machine.ip.toNat + instruction.width) :
      TurnsTo machine (.running { effected with ip := next })
  | overran {instruction : Instruction} {effected : Machine}
      (fetched : machine.fetch = .ok instruction) (effect : Effect machine instruction effected)
      (outside : 2 ^ 64 ≤ machine.ip.toNat + instruction.width) :
      TurnsTo machine
        (.stopped (.error (.invalidAddress (machine.ip.toNat + instruction.width)))
          { effected with phase := .faulted })
  | jumped {condition : Condition} {value destination : Mode} {tested goal : Int}
      {address : Address} (fetched : machine.fetch = .ok (.jump condition value destination))
      (readValue : machine.operand 0 value = .ok tested) (holds : condition.holds tested = true)
      (readGoal : machine.operand 1 destination = .ok goal)
      (found : Address.locate goal = .ok address) :
      TurnsTo machine (.running { machine with ip := address })
  | waited {target : TargetMode} (fetched : machine.fetch = .ok (.input target))
      (empty : machine.channel.input = []) :
      TurnsTo machine (.stopped (.ok .blocked) { machine with phase := .blocked })
  | halted (fetched : machine.fetch = .ok .halt) :
      TurnsTo machine (.stopped (.ok .halted) { machine with phase := .halted })

theorem turnsTo_advance
    {machine effected : Machine} {instruction : Instruction}
    (fetched : machine.fetch = .ok instruction) (effect : Effect machine instruction effected) :
    TurnsTo machine (settle instruction.width (.ok .advance, effected)) := by
  have kept := effect.ip
  simp only [settle, kept]
  cases offset : machine.ip.offset? instruction.width with
  | some next => exact .advanced fetched effect (Address.offset?_eq_some_iff.1 offset)
  | none =>
      have overran := TurnsTo.overran fetched effect (Address.ofNat?_eq_none_iff.1 offset)
      rw [← kept] at overran
      rw [← kept]
      exact overran

/-- All that a turn of a running machine can come to. -/
theorem turnsTo_turn {machine : Machine} (started : machine.phase = .running) :
    TurnsTo machine machine.turn := by
  cases fetched : machine.fetch with
  | error fault =>
      rw [turn_of_fetch_error fetched]
      exact .undecodable fetched
  | ok instruction =>
      rw [turn_of_fetch started fetched]
      have executes := machine.executes_execute instruction
      generalize machine.execute instruction = outcome at executes
      cases executes with
      | missed named spent => exact .missed fetched named spent
      | advance effect => exact turnsTo_advance fetched effect
      | jump readValue holds readGoal found =>
          exact .jumped fetched readValue holds readGoal found
      | block empty => exact .waited fetched empty
      | halt => exact .halted fetched

/-- When a turn stops with a result, all that it can have come to. -/
theorem turnsTo_of_stopped
    {machine last : Machine} {result : Except Fault Phase} (started : machine.phase = .running)
    (turned : machine.turn = .stopped result last) : TurnsTo machine (.stopped result last) := by
  rw [← turned]
  exact turnsTo_turn started

/-! ## The last turn of a run -/

theorem phase_of_progress_running
    {machine current : Machine} {count : Nat} (started : machine.phase = .running)
    (progressed : machine.progress count = .running current) : current.phase = .running := by
  induction count generalizing machine with
  | zero =>
      cases progressed
      exact started
  | succ count ih =>
      cases turned : machine.turn with
      | running next =>
          rw [progress_of_turn_running turned] at progressed
          exact ih (phase_of_turn_running turned) progressed
      | stopped result last =>
          rw [progress_of_turn_stopped turned] at progressed
          cases progressed

/-- A loop that has stopped has a last turn, before which it was going on. -/
theorem last_turn_of_progress
    {machine last : Machine} {result : Except Fault Phase} {count : Nat}
    (stopped : machine.progress count = .stopped result last) :
    ∃ used before, machine.progress used = .running before ∧
      before.turn = .stopped result last := by
  induction count generalizing machine with
  | zero => cases stopped
  | succ count ih =>
      cases turned : machine.turn with
      | running next =>
          rw [progress_of_turn_running turned] at stopped
          obtain ⟨used, before, reached, final⟩ := ih stopped
          refine ⟨used + 1, before, ?_, final⟩
          rw [progress_of_turn_running turned]
          exact reached
      | stopped outcome final =>
          rw [progress_of_turn_stopped turned] at stopped
          cases stopped
          exact ⟨0, machine, rfl, turned⟩

/-- A run that returns has a last turn. -/
theorem Returns.last_turn
    {machine after : Machine} {result : Except Fault Phase}
    (live : machine.phase.isStopped = false) (returns : machine.Returns result after) :
    ∃ count before, machine.resume.progress count = .running before ∧
      before.phase = .running ∧ before.turn = .stopped result after := by
  obtain ⟨count, stopped⟩ := (returns_iff live).1 returns
  obtain ⟨used, before, reached, final⟩ := last_turn_of_progress stopped
  exact ⟨used, before, reached, phase_of_progress_running rfl reached, final⟩

end Machine

end Intcode
