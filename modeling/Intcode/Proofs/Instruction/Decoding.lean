import Intcode.Instruction.Word

/-!
# Decoding

What a word decodes to is told by its digits: the instruction has the opcode of the two low ones and
the modes of the next.  A word that does not decode has no opcode, or a mode digit that the
parameter cannot have.
-/

namespace Intcode

namespace Fault

theorem of_bind_ok
    {α β : Type} {value : Except Fault α} {next : α → Except Fault β} {result : β}
    (found : value >>= next = .ok result) :
    ∃ first, value = .ok first ∧ next first = .ok result := by
  cases value with
  | error fault => cases found
  | ok first => exact ⟨first, rfl, found⟩

theorem of_bind_error
    {α β : Type} {value : Except Fault α} {next : α → Except Fault β} {fault : Fault}
    (failed : value >>= next = .error fault) :
    value = .error fault ∨ ∃ first, value = .ok first ∧ next first = .error fault := by
  cases value with
  | error cause =>
      cases failed
      exact .inl rfl
  | ok first => exact .inr ⟨first, rfl, failed⟩

theorem of_map_ok
    {α β : Type} {value : Except Fault α} {change : α → β} {result : β}
    (found : change <$> value = .ok result) :
    ∃ first, value = .ok first ∧ change first = result := by
  cases value with
  | error fault => cases found
  | ok first =>
      cases found
      exact ⟨first, rfl, rfl⟩

theorem of_map_error
    {α β : Type} {value : Except Fault α} {change : α → β} {fault : Fault}
    (failed : change <$> value = .error fault) : value = .error fault := by
  cases value with
  | error cause =>
      cases failed
      rfl
  | ok first => cases failed

end Fault

/-! ## Modes -/

theorem Mode.digit_le (mode : Mode) : mode.digit ≤ 2 := by
  cases mode <;> decide

namespace Word

theorem modeDigit_of_mode_ok
    {word : Word} {parameter : Nat} {mode : Mode} (read : word.mode parameter = .ok mode) :
    word.modeDigit parameter = mode.digit := by
  unfold Word.mode at read
  cases found : Mode.ofDigit? (word.modeDigit parameter) with
  | none =>
      rw [found] at read
      cases read
  | some other =>
      rw [found] at read
      cases read
      exact Mode.ofDigit?_eq_some_iff.1 found

theorem modeDigit_of_targetMode_ok
    {word : Word} {parameter : Nat} {mode : TargetMode}
    (read : word.targetMode parameter = .ok mode) :
    word.modeDigit parameter = mode.toMode.digit := by
  unfold targetMode at read
  cases found : TargetMode.ofDigit? (word.modeDigit parameter) with
  | none =>
      rw [found] at read
      cases read
  | some other =>
      rw [found] at read
      cases read
      exact TargetMode.ofDigit?_eq_some_iff.1 found

theorem of_mode_error
    {word : Word} {parameter : Nat} {fault : Fault} (bad : word.mode parameter = .error fault) :
    2 < word.modeDigit parameter ∧ fault = word.modeFault parameter := by
  unfold Word.mode at bad
  cases found : Mode.ofDigit? (word.modeDigit parameter) with
  | none =>
      rw [found] at bad
      cases bad
      exact ⟨Mode.ofDigit?_eq_none_iff.1 found, rfl⟩
  | some other =>
      rw [found] at bad
      cases bad

theorem of_targetMode_error
    {word : Word} {parameter : Nat} {fault : Fault}
    (bad : word.targetMode parameter = .error fault) :
    (word.modeDigit parameter = 1 ∨ 2 < word.modeDigit parameter) ∧
      fault = word.modeFault parameter := by
  unfold targetMode at bad
  cases found : TargetMode.ofDigit? (word.modeDigit parameter) with
  | none =>
      rw [found] at bad
      cases bad
      exact ⟨TargetMode.ofDigit?_eq_none_iff.1 found, rfl⟩
  | some other =>
      rw [found] at bad
      cases bad

/-! ## Words that decode -/

/-- A word spells modes from a parameter on when its mode digits from there on are theirs. -/
def Spells (word : Word) : Nat → List Mode → Prop
  | _, [] => True
  | parameter, mode :: rest =>
      word.modeDigit parameter = mode.digit ∧ word.Spells (parameter + 1) rest

theorem Spells.modeDigit
    {word : Word} {start index : Nat} {modes : List Mode} {mode : Mode}
    (spells : word.Spells start modes) (found : modes[index]? = some mode) :
    word.modeDigit (start + index) = mode.digit := by
  induction modes generalizing start index with
  | nil => cases found
  | cons first rest ih =>
      obtain ⟨digit, further⟩ := spells
      cases index with
      | zero =>
          cases found
          exact digit
      | succ index =>
          have found' : rest[index]? = some mode := found
          have later := ih further found'
          rw [Nat.add_right_comm] at later
          exact later

theorem of_combine_ok
    {word : Word} {combiner : Combiner} {instruction : Instruction}
    (read : word.combine combiner = .ok instruction) :
    instruction.opcode = combiner.opcode ∧ word.Spells 0 instruction.modes := by
  obtain ⟨left, readLeft, read⟩ := Fault.of_bind_ok read
  obtain ⟨right, readRight, read⟩ := Fault.of_bind_ok read
  obtain ⟨target, readTarget, read⟩ := Fault.of_bind_ok read
  cases read
  exact ⟨rfl, modeDigit_of_mode_ok readLeft, modeDigit_of_mode_ok readRight,
    modeDigit_of_targetMode_ok readTarget, trivial⟩

theorem of_jump_ok
    {word : Word} {condition : Condition} {instruction : Instruction}
    (read : word.jump condition = .ok instruction) :
    instruction.opcode = condition.opcode ∧ word.Spells 0 instruction.modes := by
  obtain ⟨value, readValue, read⟩ := Fault.of_bind_ok read
  obtain ⟨destination, readDestination, read⟩ := Fault.of_bind_ok read
  cases read
  exact ⟨rfl, modeDigit_of_mode_ok readValue, modeDigit_of_mode_ok readDestination, trivial⟩

/-- A word that decodes has the opcode and spells the modes of its instruction. -/
theorem of_decode_ok
    {word : Word} {instruction : Instruction} (decoded : word.decode = .ok instruction) :
    Opcode.ofCode? word.code = some instruction.opcode ∧ word.Spells 0 instruction.modes := by
  unfold decode at decoded
  cases named : Opcode.ofCode? word.code with
  | none =>
      rw [named] at decoded
      cases decoded
  | some opcode =>
      rw [named] at decoded
      suffices reads : instruction.opcode = opcode ∧ word.Spells 0 instruction.modes by
        rw [reads.1]
        exact ⟨rfl, reads.2⟩
      cases opcode with
      | add => exact of_combine_ok decoded
      | multiply => exact of_combine_ok decoded
      | lessThan => exact of_combine_ok decoded
      | equals => exact of_combine_ok decoded
      | jumpIfTrue => exact of_jump_ok decoded
      | jumpIfFalse => exact of_jump_ok decoded
      | input =>
          obtain ⟨mode, read, rfl⟩ := Fault.of_map_ok decoded
          exact ⟨rfl, modeDigit_of_targetMode_ok read, trivial⟩
      | output =>
          obtain ⟨mode, read, rfl⟩ := Fault.of_map_ok decoded
          exact ⟨rfl, modeDigit_of_mode_ok read, trivial⟩
      | adjustBase =>
          obtain ⟨mode, read, rfl⟩ := Fault.of_map_ok decoded
          exact ⟨rfl, modeDigit_of_mode_ok read, trivial⟩
      | halt =>
          cases decoded
          exact ⟨rfl, trivial⟩

/-! ## Words that do not decode -/

theorem arity_of_target {opcode : Opcode} {index : Nat} (targeted : opcode.target? = some index) :
    opcode.arity = index + 1 := by
  cases opcode <;> cases targeted <;> rfl

/-- The first parameter of an opcode with a mode digit that it cannot have: one above two, or that of
the immediate mode if it is written through. -/
structure FirstBad (word : Word) (opcode : Opcode) (parameter : Nat) : Prop where
  inside : parameter < opcode.arity
  bad : (opcode.target? = some parameter ∧ word.modeDigit parameter = 1) ∨
    2 < word.modeDigit parameter
  earlier (other : Nat) (lower : other < parameter) : word.modeDigit other ≤ 2

theorem modeDigit_le_of_mode_ok
    {word : Word} {parameter : Nat} {mode : Mode} (read : word.mode parameter = .ok mode) :
    word.modeDigit parameter ≤ 2 := by
  rw [modeDigit_of_mode_ok read]
  exact mode.digit_le

theorem firstBad_of_combine_error
    {word : Word} {combiner : Combiner} {fault : Fault}
    (failed : word.combine combiner = .error fault) :
    ∃ parameter, word.FirstBad combiner.opcode parameter ∧ fault = word.modeFault parameter := by
  have arity : combiner.opcode.arity = 3 := by cases combiner <;> rfl
  have targeted : combiner.opcode.target? = some 2 := by cases combiner <;> rfl
  rcases Fault.of_bind_error failed with bad | ⟨left, readLeft, failed⟩
  · obtain ⟨above, rfl⟩ := of_mode_error bad
    exact ⟨0, ⟨by omega, .inr above, by omega⟩, rfl⟩
  have small := modeDigit_le_of_mode_ok readLeft
  rcases Fault.of_bind_error failed with bad | ⟨right, readRight, failed⟩
  · obtain ⟨above, rfl⟩ := of_mode_error bad
    refine ⟨1, ⟨by omega, .inr above, fun other lower => ?_⟩, rfl⟩
    obtain rfl : other = 0 := by omega
    exact small
  have small' := modeDigit_le_of_mode_ok readRight
  rcases Fault.of_bind_error failed with bad | ⟨target, -, failed⟩
  · obtain ⟨digit, rfl⟩ := of_targetMode_error bad
    refine ⟨2, ⟨by omega, digit.imp_left fun immediate => ⟨targeted, immediate⟩, ?_⟩, rfl⟩
    intro other lower
    obtain rfl | rfl : other = 0 ∨ other = 1 := by omega
    · exact small
    · exact small'
  · cases failed

theorem firstBad_of_jump_error
    {word : Word} {condition : Condition} {fault : Fault}
    (failed : word.jump condition = .error fault) :
    ∃ parameter, word.FirstBad condition.opcode parameter ∧ fault = word.modeFault parameter := by
  have arity : condition.opcode.arity = 2 := by cases condition <;> rfl
  rcases Fault.of_bind_error failed with bad | ⟨value, readValue, failed⟩
  · obtain ⟨above, rfl⟩ := of_mode_error bad
    exact ⟨0, ⟨by omega, .inr above, by omega⟩, rfl⟩
  have small := modeDigit_le_of_mode_ok readValue
  rcases Fault.of_bind_error failed with bad | ⟨destination, -, failed⟩
  · obtain ⟨above, rfl⟩ := of_mode_error bad
    refine ⟨1, ⟨by omega, .inr above, fun other lower => ?_⟩, rfl⟩
    obtain rfl : other = 0 := by omega
    exact small
  · cases failed

theorem firstBad_of_mode_error
    {word : Word} {opcode : Opcode} {fault : Fault} (single : opcode.arity = 1)
    (failed : word.mode 0 = .error fault) :
    ∃ parameter, word.FirstBad opcode parameter ∧ fault = word.modeFault parameter := by
  obtain ⟨above, rfl⟩ := of_mode_error failed
  exact ⟨0, ⟨by omega, .inr above, by omega⟩, rfl⟩

/-- A word that does not decode has no opcode, or a first parameter with a bad mode digit. -/
theorem of_decode_error
    {word : Word} {fault : Fault} (failed : word.decode = .error fault) :
    (Opcode.ofCode? word.code = none ∧ fault = .unknownOpcode word.ip word.code) ∨
      ∃ opcode, Opcode.ofCode? word.code = some opcode ∧
        ∃ parameter, word.FirstBad opcode parameter ∧ fault = word.modeFault parameter := by
  unfold decode at failed
  cases named : Opcode.ofCode? word.code with
  | none =>
      rw [named] at failed
      cases failed
      exact .inl ⟨rfl, rfl⟩
  | some opcode =>
      rw [named] at failed
      refine .inr ⟨opcode, rfl, ?_⟩
      cases opcode with
      | add => exact firstBad_of_combine_error failed
      | multiply => exact firstBad_of_combine_error failed
      | lessThan => exact firstBad_of_combine_error failed
      | equals => exact firstBad_of_combine_error failed
      | jumpIfTrue => exact firstBad_of_jump_error failed
      | jumpIfFalse => exact firstBad_of_jump_error failed
      | input =>
          obtain ⟨digit, rfl⟩ := of_targetMode_error (Fault.of_map_error failed)
          exact ⟨0, ⟨by decide, digit.imp_left fun immediate => ⟨rfl, immediate⟩, by omega⟩, rfl⟩
      | output => exact firstBad_of_mode_error rfl (Fault.of_map_error failed)
      | adjustBase => exact firstBad_of_mode_error rfl (Fault.of_map_error failed)
      | halt => cases failed

/-- The parameter that an instruction writes through is never immediate. -/
theorem mode_of_target
    {instruction : Instruction} {index : Nat} (targeted : instruction.opcode.target? = some index) :
    ∃ mode : TargetMode, instruction.modes[index]? = some mode.toMode := by
  cases instruction with
  | combine combiner left right target =>
      refine ⟨target, ?_⟩
      cases combiner <;>
        · cases targeted
          rfl
  | input target =>
      cases targeted
      exact ⟨target, rfl⟩
  | output mode => cases targeted
  | jump condition value destination => cases condition <;> cases targeted
  | adjustBase mode => cases targeted
  | halt => cases targeted

/-- A word with an immediate target does not decode.  It faults at the target or before it. -/
theorem decode_of_immediate_target
    {word : Word} {opcode : Opcode} {index : Nat}
    (named : Opcode.ofCode? word.code = some opcode) (targeted : opcode.target? = some index)
    (immediate : word.modeDigit index = 1) :
    ∃ parameter ≤ index, word.decode = .error (word.modeFault parameter) := by
  cases decoded : word.decode with
  | ok instruction =>
      obtain ⟨named', spells⟩ := of_decode_ok decoded
      obtain rfl := Option.some.inj (named.symm.trans named')
      obtain ⟨mode, found⟩ := mode_of_target targeted
      have digit := spells.modeDigit found
      rw [Nat.zero_add, immediate] at digit
      cases mode <;> cases digit
  | error fault =>
      rcases of_decode_error decoded with ⟨unknown, -⟩ | ⟨other, named', parameter, first, rfl⟩
      · rw [unknown] at named
        cases named
      · obtain rfl := Option.some.inj (named.symm.trans named')
        have last := arity_of_target targeted
        have inside := first.inside
        exact ⟨parameter, by omega, rfl⟩

end Word

end Intcode
