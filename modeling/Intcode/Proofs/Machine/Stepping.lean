import Intcode.Proofs.Instruction.Encoding
import Intcode.Proofs.Machine.Effects
import Intcode.Proofs.Memory.Contents

/-!
# Stepping through code

As long as a program does not write over its own code, what it does next can be told from the code
and the instruction pointer.  A memory that holds code goes on holding it when something is written
behind the code, and each turn of a machine can be worked out from the cells of the code: from the
instruction that they decode to and from the parameters that they give.
-/

namespace Intcode

namespace Memory

structure Holds (memory : Memory) (code : List Int) : Prop where
  fits : code.length ≤ Address.count
  read {position : Address} {value : Int} (found : code[position.toNat]? = some value) :
    memory.read position = value

theorem holds_ofList {code : List Int} (fits : code.length ≤ Address.count) (rest : List Int) :
    (ofList (code ++ rest)).Holds code where
  fits := fits
  read {position value} found := by
    obtain ⟨inside, -⟩ := List.getElem?_eq_some_iff.1 found
    rw [read_ofList, List.getElem?_append_left inside, found, Option.getD_some]

/-- A write behind the code leaves the code as it is. -/
theorem Holds.write {memory : Memory} {code : List Int} (holds : memory.Holds code)
    {target : Address} (behind : code.length ≤ target.toNat) (value : Int) :
    (memory.write target value).Holds code where
  fits := holds.fits
  read {position value} found := by
    obtain ⟨inside, -⟩ := List.getElem?_eq_some_iff.1 found
    have apart : position ≠ target := by
      rintro rfl
      exact absurd inside (Nat.not_lt.2 behind)
    rw [read_write, if_neg apart, holds.read found]

end Memory

namespace Machine

theorem parameter_eq_read {machine : Machine} {index : Nat} {address : Address}
    (placed : address.toNat = machine.ip.toNat + (index + 1)) :
    machine.parameter index = machine.memory.read address := by
  rw [parameter, Address.offset?_eq_some_iff.2 placed]

/-- Beyond the last address a parameter is zero. -/
theorem parameter_eq_zero {machine : Machine} {index : Nat}
    (outside : 2 ^ 64 ≤ machine.ip.toNat + (index + 1)) : machine.parameter index = 0 := by
  have none : machine.ip.offset? (index + 1) = none := Address.ofNat?_eq_none_iff.2 outside
  rw [parameter, none]

section Code

variable {machine : Machine} {code : List Int}

theorem fetch_of_holds {instruction : Instruction} (holds : machine.memory.Holds code)
    (found : code[machine.ip.toNat]? = some (instruction.encode : Int)) :
    machine.fetch = .ok instruction := by
  rw [fetch, holds.read found, Word.decode_encode]

theorem parameter_of_holds {index : Nat} {value : Int} (holds : machine.memory.Holds code)
    (found : code[machine.ip.toNat + (index + 1)]? = some value) :
    machine.parameter index = value := by
  obtain ⟨inside, -⟩ := List.getElem?_eq_some_iff.1 found
  obtain ⟨address, placed⟩ : ∃ address : Address,
      address.toNat = machine.ip.toNat + (index + 1) :=
    ⟨⟨_, Nat.lt_of_lt_of_le inside holds.fits⟩, rfl⟩
  rw [← placed] at found
  exact (parameter_eq_read placed).trans (holds.read found)

end Code

/-! ## Turns -/

section Turns

variable {machine effected : Machine} {instruction : Instruction}

/-- Where an instruction takes effect, the next one follows. -/
theorem turn_of_effect {next : Address} (started : machine.phase = .running)
    (fetched : machine.fetch = .ok instruction) (effect : Effect machine instruction effected)
    (inside : next.toNat = machine.ip.toNat + instruction.width) :
    machine.turn = .running { effected with ip := next } := by
  rw [← effect.ip] at inside
  rw [turn_of_fetch started fetched, effect.execute_eq]
  simp only [settle]
  rw [Address.offset?_eq_some_iff.2 inside]

/-- A jump that is taken goes on at its destination. -/
theorem turn_of_jump {condition : Condition} {value destination : Mode} {tested goal : Int}
    {address : Address} (started : machine.phase = .running)
    (fetched : machine.fetch = .ok (.jump condition value destination))
    (readValue : machine.operand 0 value = .ok tested) (holds : condition.holds tested = true)
    (readGoal : machine.operand 1 destination = .ok goal)
    (same : (address.toNat : Int) = goal) :
    machine.turn = .running { machine with ip := address } := by
  have found := Address.locate_eq_ok_iff.2 same
  rw [turn_of_fetch started fetched]
  simp only [execute, jumpStep, readValue, readGoal, found, holds, bind, Except.bind, if_true]
  rfl

/-- Where an instruction takes effect and nothing can stand behind it, the turn faults over the
address that the next one would have. -/
theorem turn_of_overrun (started : machine.phase = .running)
    (fetched : machine.fetch = .ok instruction) (effect : Effect machine instruction effected)
    (outside : 2 ^ 64 ≤ machine.ip.toNat + instruction.width) :
    machine.turn =
      .stopped (.error (.invalidAddress (machine.ip.toNat + instruction.width)))
        { effected with phase := .faulted } := by
  have none : machine.ip.offset? instruction.width = none := Address.ofNat?_eq_none_iff.2 outside
  rw [turn_of_fetch started fetched, effect.execute_eq]
  simp only [settle, effect.ip, none]

theorem turn_of_halt (started : machine.phase = .running) (fetched : machine.fetch = .ok .halt) :
    machine.turn = .stopped (.ok .halted) { machine with phase := .halted } := by
  rw [turn_of_fetch started fetched]
  rfl

end Turns

/-! ## Following code -/

/-- A running machine follows code when it has the code in its memory and stands at a position in
it. -/
structure Follows (machine : Machine) (code : List Int) (position : Nat) : Prop where
  holds : machine.memory.Holds code
  ip : machine.ip.toNat = position
  started : machine.phase = .running

namespace Follows

variable {machine : Machine} {code : List Int} {position : Nat}

theorem fetch {instruction : Instruction} (follows : machine.Follows code position)
    (found : code[position]? = some (instruction.encode : Int)) :
    machine.fetch = .ok instruction := by
  rw [← follows.ip] at found
  exact fetch_of_holds follows.holds found

theorem parameter {index : Nat} {value : Int} (follows : machine.Follows code position)
    (found : code[position + (index + 1)]? = some value) : machine.parameter index = value := by
  rw [← follows.ip] at found
  exact parameter_of_holds follows.holds found

theorem immediate {index : Nat} {value : Int} (follows : machine.Follows code position)
    (found : code[position + (index + 1)]? = some value) :
    machine.operand index .immediate = .ok value := by
  rw [operand, follows.parameter found]

theorem stored {index : Nat} (follows : machine.Follows code position) (cell : Address)
    (found : code[position + (index + 1)]? = some (cell.toNat : Int)) :
    machine.operand index .position = .ok (machine.memory.read cell) := by
  rw [operand, follows.parameter found]
  exact Memory.readAt_eq_ok_iff.2 ⟨cell, rfl, rfl⟩

theorem target {index : Nat} (follows : machine.Follows code position) (cell : Address)
    (found : code[position + (index + 1)]? = some (cell.toNat : Int)) :
    machine.target index .position = .ok cell := by
  rw [Machine.target, follows.parameter found]
  exact Address.locate_eq_ok_iff.2 rfl

/-- An instruction that takes effect, and leaves the code as it is, leads on in the code. -/
theorem advance {instruction : Instruction} {effected : Machine}
    (follows : machine.Follows code position)
    (found : code[position]? = some (instruction.encode : Int))
    (effect : Effect machine instruction effected) (holds : effected.memory.Holds code)
    (started : effected.phase = .running) (inside : position + instruction.width ≤ code.length)
    (short : code.length < Address.count) :
    ∃ next, machine.turn = .running next ∧ next.Follows code (position + instruction.width) ∧
      next.memory = effected.memory ∧ next.channel = effected.channel := by
  let address : Address := ⟨position + instruction.width, Nat.lt_of_le_of_lt inside short⟩
  have reached : address.toNat = machine.ip.toNat + instruction.width := by rw [follows.ip]
  exact ⟨{ effected with ip := address },
    turn_of_effect follows.started (follows.fetch found) effect reached, ⟨holds, rfl, started⟩,
    rfl, rfl⟩

theorem combine {leftValue rightValue : Int} (follows : machine.Follows code position)
    (combiner : Combiner) (left right : Mode) (cell : Address)
    (found : code[position]? =
      some ((Instruction.combine combiner left right .position).encode : Int))
    (readLeft : machine.operand 0 left = .ok leftValue)
    (readRight : machine.operand 1 right = .ok rightValue)
    (targeted : code[position + 3]? = some (cell.toNat : Int)) (behind : code.length ≤ cell.toNat) :
    ∃ next, machine.turn = .running next ∧ next.Follows code (position + 4) ∧
      next.memory = machine.memory.write cell (combiner.apply leftValue rightValue) ∧
      next.channel = machine.channel := by
  have width : (Instruction.combine combiner left right .position).width = 4 := by
    cases combiner <;> rfl
  obtain ⟨last, -⟩ := List.getElem?_eq_some_iff.1 targeted
  rw [← width]
  exact follows.advance found (.combine readLeft readRight (follows.target cell targeted))
    (follows.holds.write behind _) follows.started (by omega) (Nat.lt_of_le_of_lt behind cell.isLt)

/-- An input instruction takes the first value of the input to its cell. -/
theorem input {value : Int} {rest : List Int} (follows : machine.Follows code position)
    (cell : Address)
    (found : code[position]? = some ((Instruction.input .position).encode : Int))
    (targeted : code[position + 1]? = some (cell.toNat : Int)) (behind : code.length ≤ cell.toNat)
    (pending : machine.channel.input = value :: rest) :
    ∃ next, machine.turn = .running next ∧ next.Follows code (position + 2) ∧
      next.memory = machine.memory.write cell value ∧
      Channel.Exchange [value] [] machine.channel next.channel := by
  obtain ⟨last, -⟩ := List.getElem?_eq_some_iff.1 targeted
  obtain ⟨next, turned, further, memory, channel⟩ :=
    follows.advance found (.input pending (follows.target cell targeted))
      (follows.holds.write behind value) follows.started last (Nat.lt_of_le_of_lt behind cell.isLt)
  refine ⟨next, turned, further, memory, ?_⟩
  rw [channel]
  exact Channel.Exchange.take_iff.2 ⟨pending, rfl⟩

theorem output {value : Int} (follows : machine.Follows code position) (mode : Mode)
    (found : code[position]? = some ((Instruction.output mode).encode : Int))
    (read : machine.operand 0 mode = .ok value) (inside : position + 2 ≤ code.length)
    (short : code.length < Address.count) :
    ∃ next, machine.turn = .running next ∧ next.Follows code (position + 2) ∧
      next.memory = machine.memory ∧ Channel.Exchange [] [value] machine.channel next.channel := by
  obtain ⟨next, turned, further, memory, channel⟩ :=
    follows.advance found (.output read) follows.holds follows.started inside short
  refine ⟨next, turned, further, memory, ?_⟩
  rw [channel]
  exact Channel.Exchange.emit_iff.2 rfl

/-- A jump leads to its goal if the tested value meets the condition, and else on in the code. -/
theorem jump {tested : Int} (follows : machine.Follows code position) (condition : Condition)
    (value destination : Mode) (goal : Address)
    (found : code[position]? = some ((Instruction.jump condition value destination).encode : Int))
    (readValue : machine.operand 0 value = .ok tested)
    (readGoal : machine.operand 1 destination = .ok (goal.toNat : Int))
    (inside : position + 3 ≤ code.length) (short : code.length < Address.count) :
    ∃ next, machine.turn = .running next ∧
      next.Follows code (if condition.holds tested then goal.toNat else position + 3) ∧
      next.memory = machine.memory ∧ next.channel = machine.channel := by
  have width : (Instruction.jump condition value destination).width = 3 := by
    cases condition <;> rfl
  cases holds : condition.holds tested with
  | true =>
      exact ⟨{ machine with ip := goal },
        turn_of_jump follows.started (follows.fetch found) readValue holds readGoal rfl,
        ⟨follows.holds, rfl, follows.started⟩, rfl, rfl⟩
  | false =>
      have passed := follows.advance found (.pass readValue holds) follows.holds follows.started
        (by rw [width]; exact inside) short
      rw [width] at passed
      exact passed

end Follows

end Machine

end Intcode
