import Intcode.Proofs.History.Calls
import Intcode.Proofs.Machine.Stepping
import Intcode.Proofs.Memory.Checked

/-!
# Addresses of machines that occur

A machine that occurs in a history, between two calls or in the course of a run, has the memory that
its program was loaded into, as its instructions have written to it since.  So its memory is laid
out, and as long as the span is no longer than a machine can hold, the arithmetic on its addresses
neither wraps around nor leaves the span.
-/

namespace Intcode

namespace Machine

/-! ## The addresses of a turn -/

/--
A running machine works out the addresses of a turn exactly.  No sum is taken to be another address
than the one that it is: where it is none, a parameter is zero, and an instruction that should be
followed by another one faults over the sum.
-/
structure TurnsExactly (machine : Machine) : Prop where
  parameter {index : Nat} {address : Address}
    (inside : address.toNat = machine.ip.toNat + (index + 1)) :
    machine.parameter index = machine.memory.read address
  parameter_outside {index : Nat} (outside : 2 ^ 64 ≤ machine.ip.toNat + (index + 1)) :
    machine.parameter index = 0
  advance {instruction : Instruction} {effected : Machine} {next : Address}
    (fetched : machine.fetch = .ok instruction) (effect : Effect machine instruction effected)
    (inside : next.toNat = machine.ip.toNat + instruction.width) :
    machine.turn = .running { effected with ip := next }
  overrun {instruction : Instruction} {effected : Machine}
    (fetched : machine.fetch = .ok instruction) (effect : Effect machine instruction effected)
    (outside : 2 ^ 64 ≤ machine.ip.toNat + instruction.width) :
    machine.turn =
      .stopped (.error (.invalidAddress (machine.ip.toNat + instruction.width)))
        { effected with phase := .faulted }
  jump {condition : Condition} {value destination : Mode} {tested goal : Int} {address : Address}
    (fetched : machine.fetch = .ok (.jump condition value destination))
    (readValue : machine.operand 0 value = .ok tested) (holds : condition.holds tested = true)
    (readGoal : machine.operand 1 destination = .ok goal) (same : (address.toNat : Int) = goal) :
    machine.turn = .running { machine with ip := address }
  halt (fetched : machine.fetch = .ok .halt) :
    machine.turn = .stopped (.ok .halted) { machine with phase := .halted }
  /-- Execution goes on behind the instruction, or where a jump leads that is taken. -/
  goes_on {next : Machine} (turned : machine.turn = .running next) :
    (∃ instruction effected, machine.fetch = .ok instruction ∧
        Effect machine instruction effected ∧
        next.ip.toNat = machine.ip.toNat + instruction.width) ∨
      ∃ condition value destination,
        machine.fetch = .ok (.jump condition value destination) ∧
        machine.takesJump condition value = true ∧
        machine.operand 1 destination = .ok (next.ip.toNat : Int)

theorem turnsExactly {machine : Machine} (started : machine.phase = .running) :
    TurnsExactly machine where
  parameter inside := parameter_eq_read inside
  parameter_outside := parameter_eq_zero
  advance := turn_of_effect started
  overrun := turn_of_overrun started
  jump := turn_of_jump started
  halt := turn_of_halt started
  goes_on {next} turned := by
    have turns := turnsTo_turn started
    rw [turned] at turns
    cases turns with
    | advanced fetched effect inside => exact .inl ⟨_, _, fetched, effect, inside⟩
    | jumped fetched readValue holds readGoal found =>
        refine .inr ⟨_, _, _, fetched, ?_, ?_⟩
        · simp only [takesJump, readValue, holds]
        · rw [readGoal, ← Address.locate_eq_ok_iff.1 found]

/-! ## What a turn writes -/

/-- The calls by which an instruction writes to memory: at most one. -/
def writes (machine : Machine) : Instruction → List Memory.Call
  | .combine combiner left right target =>
      match machine.combination combiner left right target with
      | .ok (value, address) => [.write address value]
      | .error _ => []
  | .input target =>
      match machine.channel.input, machine.target 0 target with
      | value :: _, .ok address => [.write address value]
      | _, _ => []
  | .output _ | .jump .. | .adjustBase _ | .halt => []

def turnWrites (machine : Machine) : List Memory.Call :=
  match machine.fetch with
  | .ok instruction => machine.writes instruction
  | .error _ => []

theorem memory_execute (machine : Machine) (instruction : Instruction) :
    (machine.execute instruction).2.memory = machine.memory.after (machine.writes instruction) := by
  cases instruction with
  | combine combiner left right target =>
      simp only [execute, writes]
      cases machine.combination combiner left right target <;> rfl
  | input target =>
      cases pending : machine.channel.input with
      | nil =>
          rw [execute_input_of_nil pending]
          simp only [writes, pending]
          rfl
      | cons value rest =>
          rw [execute_input_of_cons pending]
          simp only [writes, pending]
          cases machine.target 0 target <;> rfl
  | output mode =>
      simp only [execute, writes]
      cases machine.operand 0 mode <;> rfl
  | jump condition value destination => rfl
  | adjustBase mode =>
      simp only [execute, writes]
      cases machine.operand 0 mode <;> rfl
  | halt => rfl

/-- A turn leaves the memory as its writes do. -/
theorem memory_reached_turn {machine : Machine} (started : machine.phase = .running) :
    machine.turn.reached.memory = machine.memory.after machine.turnWrites := by
  cases fetched : machine.fetch with
  | error fault =>
      rw [turn_of_fetch_error fetched, turnWrites, fetched]
      rfl
  | ok instruction =>
      rw [turn_of_fetch started fetched, turnWrites, fetched]
      exact (memory_reached_settle _ _ _).trans (machine.memory_execute instruction)

/-! ## Machines that occur -/

/--
A machine arises from the cells of a program by writes: the cells were its memory when it was last
made or loaded, and in each of its turns since then it has written what the instruction writes.
-/
inductive Arises : List Int → List Memory.Call → Machine → Prop where
  | empty : Arises [] [] Machine.empty
  | started (machine : Machine) (program : Program) :
      Arises program.cells [] (machine.start program)
  | exchanged {cells : List Int} {writes : List Memory.Call} {machine : Machine}
      (arises : Arises cells writes machine) (channel : Channel) :
      Arises cells writes (machine.withChannel channel)
  | resumed {cells : List Int} {writes : List Memory.Call} {machine : Machine}
      (arises : Arises cells writes machine) : Arises cells writes machine.resume
  | turned {cells : List Int} {writes : List Memory.Call} {machine : Machine}
      (arises : Arises cells writes machine) (started : machine.phase = .running) :
      Arises cells (writes ++ machine.turnWrites) machine.turn.reached

/-- A machine occurs between two calls of its owner, or in the course of a run after a call. -/
inductive Occurs (machine : Machine) : Prop where
  | between {calls : List (Call × Reply)} {events : List Channel.Event}
      (history : History empty calls events machine)
  | within {owned : Machine} {calls : List (Call × Reply)} {events : List Channel.Event}
      {count : Nat} (history : History empty calls events owned)
      (live : owned.phase.isStopped = false)
      (progressed : owned.resume.progress count = .running machine)

section Arises

variable {cells : List Int} {writes : List Memory.Call} {machine : Machine}

theorem Arises.memory (arises : Arises cells writes machine) :
    machine.memory = (Memory.ofList cells).after writes := by
  induction arises with
  | empty => rfl
  | started machine program => rfl
  | exchanged arises channel ih => exact ih
  | resumed arises ih => exact ih
  | turned arises started ih =>
      rw [memory_reached_turn started, ih, Memory.after_append]

theorem Arises.laidOut (arises : Arises cells writes machine) :
    Memory.LaidOut cells (Memory.Call.targets writes) machine.memory := by
  rw [arises.memory]
  exact Memory.laidOut_after cells writes

theorem Arises.progress (arises : Arises cells writes machine)
    (started : machine.phase = .running) (count : Nat) :
    ∃ writes, Arises cells writes (machine.progress count).reached := by
  induction count generalizing writes machine with
  | zero => exact ⟨writes, arises⟩
  | succ count ih =>
      have turned := arises.turned started
      cases outcome : machine.turn with
      | running next =>
          rw [progress_of_turn_running outcome]
          rw [outcome] at turned
          exact ih turned (phase_of_turn_running outcome)
      | stopped result last =>
          rw [progress_of_turn_stopped outcome]
          rw [outcome] at turned
          exact ⟨_, turned⟩

end Arises

theorem History.arises
    {machine : Machine} {calls : List (Call × Reply)} {events : List Channel.Event}
    (history : History empty calls events machine) :
    ∃ cells writes, Arises cells writes machine := by
  apply History.invariant (fun machine => ∃ cells writes, Arises cells writes machine) _ _ _ history
    ⟨_, _, .empty⟩
  · intro machine program
    exact ⟨_, _, .started machine program⟩
  · rintro machine channel ⟨cells, writes, arises⟩
    exact ⟨_, _, arises.exchanged channel⟩
  · rintro machine result after ⟨cells, writes, arises⟩ live returns
    obtain ⟨count, stopped⟩ := (returns_iff live).1 returns
    obtain ⟨written, further⟩ := arises.resumed.progress rfl count
    rw [stopped] at further
    exact ⟨_, _, further⟩

theorem Occurs.arises {machine : Machine} (occurs : Occurs machine) :
    ∃ cells writes, Arises cells writes machine := by
  cases occurs with
  | between history => exact history.arises
  | within history live progressed =>
      obtain ⟨cells, writes, arises⟩ := history.arises
      obtain ⟨written, further⟩ := arises.resumed.progress rfl _
      rw [progressed] at further
      exact ⟨_, _, further⟩

/--
No address of a machine wraps around or leaves the span.  As long as the span of a machine that
occurs is no longer than a machine can hold:

* every step of a write passes its check, at every address, and no write shortens the span;
* every step of growing passes its check too, and behind the end of the span, where alone a write
  grows it, the span gets longer;
* the machine has arisen from the cells of a program by writes, and the extent of its memory is one
  past the highest cell unless the last address was written, where it is capped;
* wherever the machine may stand, it works out the addresses of its turn exactly.
-/
theorem addresses_never_wrap {machine : Machine} (occurs : Occurs machine)
    (short : machine.memory.span.size ≤ 2 ^ 63 - 1) :
    (∀ address value,
      machine.memory.checkedWrite address value = .ok (machine.memory.write address value) ∧
        machine.memory.span.size ≤ (machine.memory.write address value).span.size) ∧
    (∀ address : Address, machine.memory.span.size ≤ address.toNat →
      machine.memory.checkedGrow (address.toNat + 1) =
          .ok (machine.memory.grow (address.toNat + 1)) ∧
        machine.memory.span.size < (machine.memory.grow (address.toNat + 1)).span.size) ∧
    (∃ cells writes, Arises cells writes machine) ∧
    (∀ cells writes, Arises cells writes machine →
      let written := Memory.Call.targets writes
      (Address.last ∉ written →
        machine.memory.extent = max cells.length (Memory.Call.pastHighest written)) ∧
      (Address.last ∈ written → machine.memory.extent = 2 ^ 64 - 1)) ∧
    ∀ ip, TurnsExactly { machine with ip := ip, phase := .running } := by
  obtain ⟨cells, writes, arises⟩ := occurs.arises
  have apart := arises.laidOut.apart
  refine ⟨fun address value => ⟨apart.checkedWrite_eq_ok short address value,
    machine.memory.size_span_le_write address value⟩, ?_, ⟨cells, writes, arises⟩, ?_,
    fun ip => turnsExactly rfl⟩
  · intro address behind
    refine ⟨apart.checkedGrow_eq_ok (by omega), ?_⟩
    rw [Memory.size_span_grow]
    omega
  · intro cells writes arises
    exact ⟨arises.laidOut.extent_of_not_mem_last short, arises.laidOut.extent_of_mem_last short⟩

/-- A machine whose program puts a jump into the last cell and jumps there. -/
def lastJump : Machine :=
  empty.start ⟨[1101, 0, 1106, 2 ^ 64 - 1, 1105, 1, 2 ^ 64 - 1]⟩

def atLastJump : Machine :=
  (lastJump.resume.progress 2).reached

/-- In the last cell a jump whose parameters lie past the end is taken, to zero. -/
theorem addresses_never_wrap_lastJump :
    lastJump.resume.progress 2 = .running atLastJump ∧
      atLastJump.memory.span.size ≤ 2 ^ 63 - 1 ∧ atLastJump.ip = Address.last ∧
      atLastJump.turn = .running { atLastJump with ip := .zero } := by
  have progressed : lastJump.resume.progress 2 = .running atLastJump := rfl
  have answered : empty.answer? 0 (.start ⟨[1101, 0, 1106, 2 ^ 64 - 1, 1105, 1, 2 ^ 64 - 1]⟩) =
      some (.done (.ok ()), lastJump) := rfl
  have short : atLastJump.memory.span.size ≤ 2 ^ 63 - 1 := by decide
  have occurs : Occurs atLastJump := .within (.cons answered (.nil _)) rfl progressed
  have turns : TurnsExactly atLastJump := (addresses_never_wrap occurs short).2.2.2.2 Address.last
  have zero (index : Nat) : atLastJump.parameter index = 0 :=
    turns.parameter_outside (by change 2 ^ 64 ≤ (2 ^ 64 - 1) + (index + 1); omega)
  have fetched : atLastJump.fetch = .ok (.jump .zero .immediate .immediate) := rfl
  have readValue : atLastJump.operand 0 .immediate = .ok 0 := congrArg Except.ok (zero 0)
  have readGoal : atLastJump.operand 1 .immediate = .ok 0 := congrArg Except.ok (zero 1)
  exact ⟨progressed, short, rfl, turns.jump fetched readValue rfl readGoal rfl⟩

end Machine

end Intcode
