import Mathlib.Data.Nat.Digits.Lemmas
import Intcode.Proofs.Ideal.Machine
import Intcode.Proofs.Machine.Chunks

/-!
# The machine and the ideal machine

Turn by turn, a machine does what the ideal machine does: the same values stand at the same
addresses, the registers and the channel hold the same, and both go on, stop in the same phase, or
stop over the same trouble.
-/

namespace Intcode

inductive Reports : Fault → IdealMachine.Trouble → Prop where
  | address (value : Int) : Reports (.invalidAddress value) (.address value)
  | mode (ip : Address) (parameter digit : Nat) :
      Reports (.invalidAddressingMode ip parameter digit) (.mode ip.toNat parameter digit)
  | opcode (ip : Address) (code : Int) :
      Reports (.unknownOpcode ip code) (.opcode ip.toNat code)

/-- Both find a value, and the values agree, or both fail, and the fault reports the trouble. -/
inductive Agree {α β : Type} (same : α → β → Prop) :
    Except Fault α → Except IdealMachine.Trouble β → Prop where
  | ok {value : α} {value' : β} (agrees : same value value') : Agree same (.ok value) (.ok value')
  | error {fault : Fault} {trouble : IdealMachine.Trouble} (reports : Reports fault trouble) :
      Agree same (.error fault) (.error trouble)

theorem Agree.map
    {α β α' β' : Type} {same : α → β → Prop} {same' : α' → β' → Prop} {value : Except Fault α}
    {value' : Except IdealMachine.Trouble β} {change : α → α'} {change' : β → β'}
    (agree : Agree same value value')
    (kept : ∀ found found', same found found' → same' (change found) (change' found')) :
    Agree same' (value.map change) (value'.map change') := by
  cases agree with
  | ok agrees => exact .ok (kept _ _ agrees)
  | error reports => exact .error reports

/-- A machine represents an ideal machine when the two look the same at every address. -/
structure Represents (machine : Machine) (ideal : IdealMachine) : Prop where
  memory (address : Address) : machine.memory.read address = ideal.memory address.toNat
  ip : machine.ip.toNat = ideal.ip
  base : machine.base = ideal.base
  input : machine.channel.input = ideal.input
  output : machine.channel.output.toList = ideal.output
  listeners : machine.channel.listeners = ideal.listeners
  heard : machine.channel.heard.toList = ideal.heard
  phase : machine.phase = ideal.phase

abbrev Alike : Progress Fault Machine → Progress IdealMachine.Trouble IdealMachine → Prop :=
  Progress.Related Reports Represents

/-! ## Words -/

namespace IdealMachine

/-- A digit is found by division. -/
theorem digit_eq (ideal : IdealMachine) (place : Nat) :
    ideal.digit place = ideal.word.toNat / 10 ^ place % 10 :=
  Nat.getD_digits _ _ (by decide)

/-- The two low digits of a word that is not negative are its remainder by one hundred. -/
theorem code_eq {ideal : IdealMachine} (nonnegative : 0 ≤ ideal.word) :
    (ideal.code : Int) = ideal.word.tmod 100 := by
  rw [Int.tmod_eq_emod_of_nonneg nonnegative]
  unfold code
  rw [digit_eq, digit_eq]
  omega

theorem ofCode?_of_negative {ideal : IdealMachine} (negative : ideal.word < 0) :
    Opcode.ofCode? (ideal.word.tmod 100) = none := by
  have remainder : 0 ≤ (-ideal.word).tmod 100 := Int.tmod_nonneg 100 (by omega)
  rw [Int.neg_tmod] at remainder
  cases named : Opcode.ofCode? (ideal.word.tmod 100) with
  | none => rfl
  | some opcode =>
      have positive : 0 < opcode.code := by cases opcode <;> decide
      have same := Opcode.ofCode?_eq_some_iff.1 named
      omega

theorem turn_of_negative {ideal : IdealMachine} (negative : ideal.word < 0) :
    ideal.turn = ideal.fail (.opcode ideal.ip (ideal.word.tmod 100)) := by
  unfold turn
  rw [if_pos negative]

theorem turn_of_unknown
    {ideal : IdealMachine} (nonnegative : 0 ≤ ideal.word)
    (unknown : Opcode.ofCode? (ideal.word.tmod 100) = none) :
    ideal.turn = ideal.fail (.opcode ideal.ip (ideal.word.tmod 100)) := by
  rw [← code_eq nonnegative] at unknown ⊢
  unfold turn
  rw [if_neg (Int.not_lt.2 nonnegative)]
  split <;> first | rfl | (rename_i code; rw [code] at unknown; cases unknown)

def byOpcode (ideal : IdealMachine) : Opcode → Progress Trouble IdealMachine
  | .add => ideal.combine (Combiner.apply .add)
  | .multiply => ideal.combine (Combiner.apply .multiply)
  | .input => ideal.takeInput
  | .output => ideal.putOutput
  | .jumpIfTrue => ideal.jump (Condition.holds .nonzero)
  | .jumpIfFalse => ideal.jump (Condition.holds .zero)
  | .lessThan => ideal.combine (Combiner.apply .lessThan)
  | .equals => ideal.combine (Combiner.apply .equals)
  | .adjustBase => ideal.adjustBase
  | .halt => .stopped (.ok .halted) { ideal with phase := .halted }

/-- A word whose low digits are an opcode is executed by it. -/
theorem turn_of_opcode
    {ideal : IdealMachine} {opcode : Opcode} (nonnegative : 0 ≤ ideal.word)
    (named : Opcode.ofCode? (ideal.word.tmod 100) = some opcode) :
    ideal.turn = ideal.byOpcode opcode := by
  rw [Opcode.ofCode?_eq_some_iff, ← code_eq nonnegative] at named
  have code : ideal.code = opcode.code := Int.ofNat_inj.1 named
  unfold turn
  rw [if_neg (Int.not_lt.2 nonnegative), code]
  cases opcode with
  | add => rfl
  | multiply => rfl
  | input => rfl
  | output => rfl
  | jumpIfTrue =>
      have same : Condition.holds .nonzero = fun value => decide (value ≠ 0) := by
        funext value
        exact (Bool.eq_iff_iff.2 (by simp [Condition.holds]))
      simp only [byOpcode, same, Opcode.code]
  | jumpIfFalse => rfl
  | lessThan => rfl
  | equals => rfl
  | adjustBase => rfl
  | halt => rfl

end IdealMachine

namespace Represents

variable {machine : Machine} {ideal : IdealMachine}

theorem word (represents : Represents machine ideal) :
    machine.memory.read machine.ip = ideal.word := by
  rw [represents.memory, represents.ip]
  rfl

theorem modeDigit (represents : Represents machine ideal) (nonnegative : 0 ≤ ideal.word)
    (index : Nat) :
    Word.modeDigit ⟨machine.memory.read machine.ip, machine.ip⟩ index = ideal.modeDigit index := by
  have shifted : 10 ^ (index + 2) = 100 * 10 ^ index := by
    rw [Nat.pow_add]
    omega
  unfold Word.modeDigit IdealMachine.modeDigit
  rw [Nat.pow_eq, IdealMachine.digit_eq, represents.word, shifted, ← Nat.div_div_eq_div_mul]
  have magnitude : ideal.word.natAbs = ideal.word.toNat := by omega
  rw [magnitude]

theorem parameter (represents : Represents machine ideal) (index : Nat) :
    machine.parameter index = ideal.parameter index := by
  unfold Machine.parameter IdealMachine.parameter Address.offset?
  rw [represents.ip]
  by_cases inside : ideal.ip + (index + 1) < 2 ^ 64
  · have found : Address.ofNat? (ideal.ip + (index + 1)) = some ⟨_, inside⟩ := dif_pos inside
    rw [found, if_pos inside]
    exact represents.memory ⟨_, inside⟩
  · have absent : Address.ofNat? (ideal.ip + (index + 1)) = none := dif_neg inside
    rw [absent, if_neg inside]

end Represents

/-- A number names the same cell to both. -/
theorem locate_agrees (value : Int) :
    Agree (fun address cell => address.toNat = cell) (Address.locate value)
      (IdealMachine.locate value) := by
  unfold IdealMachine.locate
  by_cases inside : 0 ≤ value ∧ value < 2 ^ 64
  · have small : value.toNat < 2 ^ 64 := by omega
    have found : Address.locate value = .ok ⟨value.toNat, small⟩ := by
      rw [Address.locate_eq_ok_iff]
      exact Int.toNat_of_nonneg inside.1
    rw [found, if_pos inside]
    exact .ok rfl
  · have absent : Address.locate value = .error (.invalidAddress value) := by
      rw [Address.locate_eq_error_iff]
      exact ⟨by omega, rfl⟩
    rw [absent, if_neg inside]
    exact .error (.address value)

/-! ## Operands and targets -/

namespace Represents

variable {machine : Machine} {ideal : IdealMachine}

theorem readAt (represents : Represents machine ideal) (value : Int) :
    Agree Eq (machine.memory.readAt value) ((IdealMachine.locate value).map ideal.memory) := by
  refine (locate_agrees value).map ?_
  intro address cell same
  rw [represents.memory, same]

theorem operand (represents : Represents machine ideal) (index : Nat) (mode : Mode) :
    Agree Eq (machine.operand index mode) (ideal.operand index mode.digit) := by
  unfold Machine.operand IdealMachine.operand IdealMachine.reference
  rw [represents.parameter, represents.base]
  cases mode with
  | position => exact represents.readAt _
  | immediate => exact .ok rfl
  | relative => exact represents.readAt _

theorem target (represents : Represents machine ideal) (index : Nat) (mode : TargetMode) :
    Agree (fun address cell => address.toNat = cell) (machine.target index mode)
      (ideal.target index mode.toMode.digit) := by
  unfold Machine.target IdealMachine.target IdealMachine.reference
  rw [represents.parameter, represents.base]
  cases mode with
  | position => exact locate_agrees _
  | relative => exact locate_agrees _

theorem store (represents : Represents machine ideal) (address : Address) (value : Int) :
    Represents (machine.store address value) (ideal.store address.toNat value) where
  memory other := by
    have same : other = address ↔ other.toNat = address.toNat := Address.ext_iff
    simp only [Machine.store, IdealMachine.store, Memory.read_write, represents.memory, same]
  ip := represents.ip
  base := represents.base
  input := represents.input
  output := represents.output
  listeners := represents.listeners
  heard := represents.heard
  phase := represents.phase

theorem emit (represents : Represents machine ideal) (value : Int) :
    Represents { machine with channel := machine.channel.emit value } (ideal.emit value) where
  memory := represents.memory
  ip := represents.ip
  base := represents.base
  input := represents.input
  output := by simp [Channel.emit, IdealMachine.emit, represents.output]
  listeners := represents.listeners
  heard := by simp [Channel.emit, IdealMachine.emit, represents.heard, represents.listeners]
  phase := represents.phase

theorem withPhase (represents : Represents machine ideal) (phase : Phase) :
    Represents { machine with phase } { ideal with phase } :=
  { represents with phase := rfl }

end Represents

/-! ## Turns -/

namespace Machine

def attempt {α : Type} (machine : Machine) (value : Except Fault α)
    (further : α → Progress Fault Machine) : Progress Fault Machine :=
  match value with
  | .error fault => .stopped (.error fault) { machine with phase := .faulted }
  | .ok value => further value

theorem attempt_bind
    {α β : Type} (machine : Machine) (value : Except Fault α) (next : α → Except Fault β)
    (further : β → Progress Fault Machine) :
    machine.attempt (value >>= next) further =
      machine.attempt value fun found => machine.attempt (next found) further := by
  cases value <;> rfl

theorem attempt_map
    {α β : Type} (machine : Machine) (value : Except Fault α) (change : α → β)
    (further : β → Progress Fault Machine) :
    machine.attempt (change <$> value) further =
      machine.attempt value fun found => further (change found) := by
  cases value <;> rfl

/-- A turn goes on with the instruction that it fetches. -/
theorem turn_eq_attempt {machine : Machine} (started : machine.phase = .running) :
    machine.turn =
      machine.attempt machine.fetch fun instruction =>
        settle instruction.width (machine.execute instruction) := by
  cases fetched : machine.fetch with
  | error fault => exact turn_of_fetch_error fetched
  | ok instruction => exact turn_of_fetch started fetched

end Machine

namespace Represents

variable {machine : Machine} {ideal : IdealMachine}

theorem fail (represents : Represents machine ideal) {fault : Fault}
    {trouble : IdealMachine.Trouble} (reports : Reports fault trouble) :
    Alike (.stopped (.error fault) { machine with phase := .faulted }) (ideal.fail trouble) :=
  .faulted reports (represents.withPhase .faulted)

/-- Both go on with values that agree, or stop over the same trouble. -/
theorem attempt
    {α β : Type} {same : α → β → Prop} {value : Except Fault α}
    {value' : Except IdealMachine.Trouble β} {further : α → Progress Fault Machine}
    {further' : β → Progress IdealMachine.Trouble IdealMachine}
    (represents : Represents machine ideal) (agree : Agree same value value')
    (goOn : ∀ found found', same found found' → Alike (further found) (further' found')) :
    Alike (machine.attempt value further) (ideal.attempt value' further') := by
  cases agree with
  | ok agrees => exact goOn _ _ agrees
  | error reports => exact represents.fail reports

/-- Both go on behind an instruction, or stop at the end of the address space. -/
theorem advance (represents : Represents machine ideal) (width : Nat) :
    Alike (Machine.settle width (.ok .advance, machine)) (ideal.advance width) := by
  unfold Machine.settle IdealMachine.advance Address.offset?
  simp only
  rw [represents.ip]
  by_cases inside : ideal.ip + width < 2 ^ 64
  · have found : Address.ofNat? (ideal.ip + width) = some ⟨_, inside⟩ := dif_pos inside
    rw [found, if_pos inside]
    exact .running { represents with ip := rfl }
  · have absent : Address.ofNat? (ideal.ip + width) = none := dif_neg inside
    rw [absent, if_neg inside]
    exact represents.fail (.address _)

theorem mode (represents : Represents machine ideal) (nonnegative : 0 ≤ ideal.word)
    (index : Nat) :
    Agree (fun mode digit => digit = mode.digit)
      (Word.mode ⟨machine.memory.read machine.ip, machine.ip⟩ index)
      (ideal.examine index IdealMachine.readable) := by
  unfold Word.mode Word.modeFault IdealMachine.examine
  rw [represents.modeDigit nonnegative, ← represents.ip]
  cases found : Mode.ofDigit? (ideal.modeDigit index) with
  | some mode =>
      rw [Mode.ofDigit?_eq_some_iff] at found
      have allowed : mode.digit ∈ IdealMachine.readable := by
        cases mode <;> decide
      rw [found, if_pos allowed]
      exact .ok rfl
  | none =>
      have refused : ideal.modeDigit index ∉ IdealMachine.readable := by
        intro allowed
        simp only [IdealMachine.readable, List.mem_cons, List.not_mem_nil, or_false] at allowed
        rcases allowed with digit | digit | digit <;> rw [digit] at found <;> cases found
      rw [if_neg refused]
      exact .error (.mode machine.ip _ _)

theorem targetMode (represents : Represents machine ideal) (nonnegative : 0 ≤ ideal.word)
    (index : Nat) :
    Agree (fun mode digit => digit = mode.toMode.digit)
      (Word.targetMode ⟨machine.memory.read machine.ip, machine.ip⟩ index)
      (ideal.examine index IdealMachine.writable) := by
  unfold Word.targetMode Word.modeFault IdealMachine.examine
  rw [represents.modeDigit nonnegative, ← represents.ip]
  cases found : TargetMode.ofDigit? (ideal.modeDigit index) with
  | some mode =>
      rw [TargetMode.ofDigit?_eq_some_iff] at found
      have allowed : mode.toMode.digit ∈ IdealMachine.writable := by
        cases mode <;> decide
      rw [found, if_pos allowed]
      exact .ok rfl
  | none =>
      have refused : ideal.modeDigit index ∉ IdealMachine.writable := by
        intro allowed
        simp only [IdealMachine.writable, List.mem_cons, List.not_mem_nil, or_false] at allowed
        rcases allowed with digit | digit <;> rw [digit] at found <;> cases found
      rw [if_neg refused]
      exact .error (.mode machine.ip _ _)

theorem combine (represents : Represents machine ideal) (nonnegative : 0 ≤ ideal.word)
    (combiner : Combiner) :
    Alike
      (machine.attempt
        (Word.combine ⟨machine.memory.read machine.ip, machine.ip⟩ combiner)
        fun instruction => Machine.settle instruction.width (machine.execute instruction))
      (ideal.combine combiner.apply) := by
  unfold Word.combine IdealMachine.combine
  simp only [Machine.attempt_bind]
  refine represents.attempt (represents.mode nonnegative 0) ?_
  rintro left _ rfl
  refine represents.attempt (represents.mode nonnegative 1) ?_
  rintro right _ rfl
  refine represents.attempt (represents.targetMode nonnegative 2) ?_
  rintro target _ rfl
  have width : (Instruction.combine combiner left right target).width = 4 := by
    cases combiner <;> rfl
  have executed :
      Machine.settle 4 (machine.execute (.combine combiner left right target)) =
        machine.attempt (machine.combination combiner left right target) fun result =>
          Machine.settle 4 (.ok .advance, machine.store result.2 result.1) := by
    simp only [Machine.execute]
    cases machine.combination combiner left right target <;> rfl
  change Alike (Machine.settle _ _) _
  rw [width, executed]
  unfold Machine.combination
  simp only [Machine.attempt_bind]
  refine represents.attempt (represents.operand 0 left) ?_
  rintro leftValue _ rfl
  refine represents.attempt (represents.operand 1 right) ?_
  rintro rightValue _ rfl
  refine represents.attempt (represents.target 2 target) ?_
  rintro address _ rfl
  exact (represents.store address _).advance 4

/-- Both take a value of the input and store it, or wait for one. -/
theorem takeInput (represents : Represents machine ideal) (nonnegative : 0 ≤ ideal.word) :
    Alike
      (machine.attempt
        (Instruction.input <$> Word.targetMode ⟨machine.memory.read machine.ip, machine.ip⟩ 0)
        fun instruction => Machine.settle instruction.width (machine.execute instruction))
      ideal.takeInput := by
  unfold IdealMachine.takeInput
  rw [Machine.attempt_map]
  refine represents.attempt (represents.targetMode nonnegative 0) ?_
  rintro target _ rfl
  rw [← represents.input]
  cases pending : machine.channel.input with
  | nil =>
      rw [Machine.execute_input_of_nil pending]
      exact .stopped { represents.withPhase .blocked with input := pending }
  | cons value rest =>
      have taken : Represents (machine.withChannel { machine.channel with input := rest })
          { ideal with input := rest } :=
        { represents with input := rfl }
      have executed :
          Machine.settle 2 (machine.execute (.input target)) =
            (machine.withChannel { machine.channel with input := rest }).attempt
              ((machine.withChannel { machine.channel with input := rest }).target 0 target)
              fun address =>
                let taken := machine.withChannel { machine.channel with input := rest }
                Machine.settle 2 (.ok .advance, taken.store address value) := by
        rw [Machine.execute_input_of_cons pending, Machine.target_withChannel]
        cases machine.target 0 target <;> rfl
      change Alike (Machine.settle 2 _) _
      rw [executed]
      refine taken.attempt (taken.target 0 target) ?_
      rintro address _ rfl
      exact (taken.store address value).advance 2

theorem putOutput (represents : Represents machine ideal) (nonnegative : 0 ≤ ideal.word) :
    Alike
      (machine.attempt
        (Instruction.output <$> Word.mode ⟨machine.memory.read machine.ip, machine.ip⟩ 0)
        fun instruction => Machine.settle instruction.width (machine.execute instruction))
      ideal.putOutput := by
  unfold IdealMachine.putOutput
  rw [Machine.attempt_map]
  refine represents.attempt (represents.mode nonnegative 0) ?_
  rintro mode _ rfl
  have executed :
      Machine.settle 2 (machine.execute (.output mode)) =
        machine.attempt (machine.operand 0 mode) fun value =>
          Machine.settle 2
            (.ok .advance, { machine with channel := machine.channel.emit value }) := by
    simp only [Machine.execute]
    cases machine.operand 0 mode <;> rfl
  change Alike (Machine.settle 2 _) _
  rw [executed]
  refine represents.attempt (represents.operand 0 mode) ?_
  rintro value _ rfl
  exact (represents.emit value).advance 2

/-- Both go on at the second operand, or behind the instruction. -/
theorem jump (represents : Represents machine ideal) (nonnegative : 0 ≤ ideal.word)
    (condition : Condition) :
    Alike
      (machine.attempt (Word.jump ⟨machine.memory.read machine.ip, machine.ip⟩ condition)
        fun instruction => Machine.settle instruction.width (machine.execute instruction))
      (ideal.jump condition.holds) := by
  unfold Word.jump IdealMachine.jump
  simp only [Machine.attempt_bind]
  refine represents.attempt (represents.mode nonnegative 0) ?_
  rintro value _ rfl
  refine represents.attempt (represents.mode nonnegative 1) ?_
  rintro destination _ rfl
  have width : (Instruction.jump condition value destination).width = 3 := by
    cases condition <;> rfl
  have executed :
      Machine.settle 3 (machine.execute (.jump condition value destination)) =
        machine.attempt (machine.jumpStep condition value destination) fun step =>
          Machine.settle 3 (.ok step, machine) := by
    simp only [Machine.execute]
    cases machine.jumpStep condition value destination <;> rfl
  change Alike (Machine.settle _ _) _
  rw [width, executed]
  unfold Machine.jumpStep
  rw [Machine.attempt_bind]
  refine represents.attempt (represents.operand 0 value) ?_
  rintro tested _ rfl
  by_cases taken : condition.holds tested = true
  · rw [if_pos taken, if_pos taken]
    simp only [Machine.attempt_bind]
    refine represents.attempt (represents.operand 1 destination) ?_
    rintro goal _ rfl
    refine represents.attempt (locate_agrees goal) ?_
    rintro address _ rfl
    exact .running { represents with ip := rfl }
  · rw [if_neg taken, if_neg taken]
    exact represents.advance 3

theorem adjustBase (represents : Represents machine ideal) (nonnegative : 0 ≤ ideal.word) :
    Alike
      (machine.attempt
        (Instruction.adjustBase <$> Word.mode ⟨machine.memory.read machine.ip, machine.ip⟩ 0)
        fun instruction => Machine.settle instruction.width (machine.execute instruction))
      ideal.adjustBase := by
  unfold IdealMachine.adjustBase
  rw [Machine.attempt_map]
  refine represents.attempt (represents.mode nonnegative 0) ?_
  rintro mode _ rfl
  have executed :
      Machine.settle 2 (machine.execute (.adjustBase mode)) =
        machine.attempt (machine.operand 0 mode) fun offset =>
          Machine.settle 2 (.ok .advance, { machine with base := machine.base + offset }) := by
    simp only [Machine.execute]
    cases machine.operand 0 mode <;> rfl
  change Alike (Machine.settle 2 _) _
  rw [executed]
  refine represents.attempt (represents.operand 0 mode) ?_
  rintro offset _ rfl
  have moved : Represents { machine with base := machine.base + offset }
      { ideal with base := ideal.base + offset } :=
    { represents with base := by rw [represents.base] }
  exact moved.advance 2

/-- A negative word, or one without an opcode, stops both. -/
theorem unknownOpcode (represents : Represents machine ideal)
    (unknown : Opcode.ofCode? (ideal.word.tmod 100) = none) :
    Alike machine.turn (ideal.fail (.opcode ideal.ip (ideal.word.tmod 100))) := by
  have undecodable : machine.fetch =
      .error (.unknownOpcode machine.ip (ideal.word.tmod 100)) := by
    rw [← represents.word] at unknown ⊢
    exact Word.decode_of_unknown unknown
  rw [Machine.turn_of_fetch_error undecodable, ← represents.ip]
  exact represents.fail (.opcode machine.ip _)

/-- One turn of the machine is one turn of the ideal machine. -/
theorem turn (represents : Represents machine ideal) (started : machine.phase = .running) :
    Alike machine.turn ideal.turn := by
  by_cases negative : ideal.word < 0
  · rw [IdealMachine.turn_of_negative negative]
    exact represents.unknownOpcode (IdealMachine.ofCode?_of_negative negative)
  · have nonnegative : 0 ≤ ideal.word := Int.not_lt.1 negative
    cases named : Opcode.ofCode? (ideal.word.tmod 100) with
    | none =>
        rw [IdealMachine.turn_of_unknown nonnegative named]
        exact represents.unknownOpcode named
    | some opcode =>
        have named' : Opcode.ofCode?
            (Word.code ⟨machine.memory.read machine.ip, machine.ip⟩) = some opcode := by
          unfold Word.code
          rw [represents.word]
          exact named
        rw [IdealMachine.turn_of_opcode nonnegative named, Machine.turn_eq_attempt started]
        unfold Machine.fetch Word.decode
        rw [named']
        cases opcode with
        | add => exact represents.combine nonnegative .add
        | multiply => exact represents.combine nonnegative .multiply
        | input => exact represents.takeInput nonnegative
        | output => exact represents.putOutput nonnegative
        | jumpIfTrue => exact represents.jump nonnegative .nonzero
        | jumpIfFalse => exact represents.jump nonnegative .zero
        | lessThan => exact represents.combine nonnegative .lessThan
        | equals => exact represents.combine nonnegative .equals
        | adjustBase => exact represents.adjustBase nonnegative
        | halt => exact .stopped (represents.withPhase .halted)

/-- Any number of turns of the machine is that number of turns of the ideal machine. -/
theorem progress (represents : Represents machine ideal) (started : machine.phase = .running)
    (count : Nat) : Alike (machine.progress count) (ideal.progress count) := by
  induction count generalizing machine ideal with
  | zero => exact .running represents
  | succ count ih =>
      have turned := represents.turn started
      have going : ∀ next, machine.turn = .running next → next.phase = .running :=
        fun next running => Machine.phase_of_turn_running running
      change Alike (machine.turn.andThen (·.progress count))
        (ideal.turn.andThen (·.progress count))
      generalize machine.turn = concrete at turned going
      generalize ideal.turn = abstract at turned
      cases turned with
      | running same => exact ih same (going _ rfl)
      | stopped same => exact .stopped same
      | faulted alike same => exact .faulted alike same

end Represents

namespace Machine

/-- A program that is started with some input represents the ideal machine that starts it. -/
theorem represents_start (origin : Machine) (program : Program) (input : List Int) :
    Represents ((origin.start program).feed input).resume
      (.start program.cells input origin.channel.listeners origin.channel.heard.toList) := by
  have live : (origin.start program).phase.isStopped = false := rfl
  rw [feed_of_live live]
  exact
    { memory := fun address => Memory.read_ofList program.cells address
      ip := rfl
      base := rfl
      input := rfl
      output := rfl
      listeners := rfl
      heard := rfl
      phase := rfl }

/--
The machine does what the ideal machine does.  Whatever program is loaded into whatever machine,
whatever the input and the listeners, after any number of cycles the two look the same, and both go
on or both stopped with the same outcome; and it is these cycles that a run counts.
-/
theorem run_simulates_ideal
    (origin : Machine) (program : Program) (input : List Int) (count : Nat) :
    Alike (((origin.start program).feed input).resume.progress count)
        ((IdealMachine.start program.cells input origin.channel.listeners
          origin.channel.heard.toList).progress count) ∧
      ((origin.start program).feed input).run count =
        (((origin.start program).feed input).resume.progress count).answer? := by
  have represents := represents_start origin program input
  have live : ((origin.start program).feed input).phase.isStopped = false :=
    isStopped_feed rfl input
  exact ⟨represents.progress rfl count, run_eq_answer? live count⟩

end Machine

end Intcode
