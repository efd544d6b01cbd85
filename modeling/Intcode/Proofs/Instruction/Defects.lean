import Mathlib.Data.Nat.Find
import Intcode.Proofs.Instruction.Encoding

/-!
# Defects of words

A word that does not decode has one defect, which its fault tells: its low digits are no opcode, or
else a mode digit stands for no mode, or else the mode of the target is immediate.  Of several, the
fault tells the first, in this order and in that of the parameters.
-/

namespace Intcode

namespace Opcode

def IsCode (value : Int) : Prop :=
  (1 ≤ value ∧ value ≤ 9) ∨ value = 99

theorem isCode_iff {value : Int} : IsCode value ↔ ∃ opcode : Opcode, value = opcode.code := by
  constructor
  · intro isCode
    obtain rfl | rfl | rfl | rfl | rfl | rfl | rfl | rfl | rfl | rfl :
        value = 1 ∨ value = 2 ∨ value = 3 ∨ value = 4 ∨ value = 5 ∨ value = 6 ∨ value = 7 ∨
          value = 8 ∨ value = 9 ∨ value = 99 := by
      unfold IsCode at isCode
      omega
    · exact ⟨.add, rfl⟩
    · exact ⟨.multiply, rfl⟩
    · exact ⟨.input, rfl⟩
    · exact ⟨.output, rfl⟩
    · exact ⟨.jumpIfTrue, rfl⟩
    · exact ⟨.jumpIfFalse, rfl⟩
    · exact ⟨.lessThan, rfl⟩
    · exact ⟨.equals, rfl⟩
    · exact ⟨.adjustBase, rfl⟩
    · exact ⟨.halt, rfl⟩
  · rintro ⟨opcode, rfl⟩
    unfold IsCode
    cases opcode <;> decide

theorem ofCode?_eq_none_iff {value : Int} : ofCode? value = none ↔ ¬ IsCode value := by
  rw [isCode_iff, Option.eq_none_iff_forall_ne_some]
  simp [ofCode?_eq_some_iff]

end Opcode

namespace Word

/-! ## Mode digits by division -/

/-- What is left of a word above its opcode and the mode digits of the first parameters, when the
digits are taken off one by one.  Division is toward zero, so it has the sign of the word. -/
def remaining (word : Word) : Nat → Int
  | 0 => word.value.tdiv 100
  | parameter + 1 => (word.remaining parameter).tdiv 10

def byte? (value : Int) : Option Nat :=
  if 0 ≤ value ∧ value < 256 then some value.toNat else none

theorem modeDigit_lt (word : Word) (parameter : Nat) : word.modeDigit parameter < 10 :=
  Nat.mod_lt _ (by decide)

theorem remaining_of_nonneg {word : Word} (nonnegative : 0 ≤ word.value) (parameter : Nat) :
    word.remaining parameter = (word.value.natAbs / 100 / 10 ^ parameter : Nat) := by
  induction parameter with
  | zero =>
      rw [remaining, Int.tdiv_eq_ediv_of_nonneg nonnegative, Nat.pow_zero, Nat.div_one]
      omega
  | succ parameter ih =>
      rw [remaining, ih, Int.tdiv_eq_ediv_of_nonneg (Int.natCast_nonneg _), Nat.pow_succ,
        ← Nat.div_div_eq_div_mul]
      norm_cast

/-- The remainder that a mode digit of a word with an opcode is taken from is a byte. -/
theorem byte?_remaining
    {word : Word} {opcode : Opcode} (named : word.value.tmod 100 = opcode.code) (parameter : Nat) :
    byte? ((word.remaining parameter).tmod 10) = some (word.modeDigit parameter) := by
  have nonnegative := (ofCode?_code_iff.1 (Opcode.ofCode?_eq_some_iff.2 named)).1
  have small := word.modeDigit_lt parameter
  have digit : (word.remaining parameter).tmod 10 = word.modeDigit parameter := by
    rw [remaining_of_nonneg nonnegative, Int.tmod_eq_emod_of_nonneg (Int.natCast_nonneg _)]
    norm_cast
  rw [digit, byte?, if_pos (by omega), Int.toNat_natCast]

/-! ## The first bad parameter -/

theorem FirstBad.unique
    {word : Word} {opcode : Opcode} {first second : Nat} (isFirst : word.FirstBad opcode first)
    (isFirst' : word.FirstBad opcode second) : first = second := by
  -- an earlier one of two could only be the target, and that is the last parameter
  have not_lt : ∀ {lower higher}, word.FirstBad opcode lower → word.FirstBad opcode higher →
      ¬ lower < higher := by
    intro lower higher low high less
    have small := high.earlier lower less
    rcases low.bad with ⟨targeted, -⟩ | above
    · have last := arity_of_target targeted
      have inside := high.inside
      omega
    · omega
  exact Nat.le_antisymm (Nat.le_of_not_lt (not_lt isFirst' isFirst))
    (Nat.le_of_not_lt (not_lt isFirst isFirst'))

theorem decode_of_firstBad
    {word : Word} {opcode : Opcode} {parameter : Nat}
    (named : Opcode.ofCode? word.code = some opcode) (first : word.FirstBad opcode parameter) :
    word.decode = .error (word.modeFault parameter) := by
  cases decoded : word.decode with
  | ok instruction =>
      obtain ⟨named', spells⟩ := of_decode_ok decoded
      obtain rfl := Option.some.inj (named.symm.trans named')
      have inside : parameter < instruction.modes.length := by
        rw [instruction.length_modes]
        exact first.inside
      have digit := spells.modeDigit (List.getElem?_eq_getElem inside)
      rw [Nat.zero_add] at digit
      rcases first.bad with ⟨targeted, immediate⟩ | above
      · obtain ⟨mode, found⟩ := mode_of_target targeted
        have digit' := spells.modeDigit found
        rw [Nat.zero_add, immediate] at digit'
        cases mode <;> cases digit'
      · have small := instruction.modes[parameter].digit_le
        omega
  | error fault =>
      rcases of_decode_error decoded with ⟨unknown, -⟩ | ⟨other, named', index, first', rfl⟩
      · rw [unknown] at named
        cases named
      · obtain rfl := Option.some.inj (named.symm.trans named')
        rw [first.unique first']

theorem exists_firstBad
    {word : Word} {opcode : Opcode} {parameter : Nat} (inside : parameter < opcode.arity)
    (bad : (opcode.target? = some parameter ∧ word.modeDigit parameter = 1) ∨
      2 < word.modeDigit parameter) :
    ∃ first, word.FirstBad opcode first := by
  by_cases undefined : ∃ other, other < parameter ∧ 2 < word.modeDigit other
  · obtain ⟨lower, above⟩ := Nat.find_spec undefined
    refine ⟨Nat.find undefined, by omega, .inr above, fun other less => ?_⟩
    have least := Nat.find_min undefined less
    omega
  · refine ⟨parameter, inside, bad, fun other lower => ?_⟩
    exact Nat.le_of_not_lt fun above => undefined ⟨other, lower, above⟩

/-! ## Defects -/

inductive Defect (word : Word) : Fault → Prop where
  /-- The remainder by one hundred is the code of no opcode, whatever the other digits are. -/
  | unknown (absent : ¬ Opcode.IsCode (word.value.tmod 100)) :
      Defect word (.unknownOpcode word.ip (word.value.tmod 100))
  /-- A mode digit stands for no mode, and those of the parameters before it do. -/
  | undefined {opcode : Opcode} {parameter : Nat} (named : word.value.tmod 100 = opcode.code)
      (inside : parameter < opcode.arity) (above : 2 < word.modeDigit parameter)
      (lowest : ∀ other < parameter, word.modeDigit other ≤ 2) :
      Defect word
        (.invalidAddressingMode word.ip (parameter + 1) (word.modeDigit parameter))
  /-- All mode digits stand for modes, and that of the target for the immediate one. -/
  | immediate {opcode : Opcode} {target : Nat} (named : word.value.tmod 100 = opcode.code)
      (targeted : opcode.target? = some target) (digit : word.modeDigit target = 1)
      (defined : ∀ other < opcode.arity, word.modeDigit other ≤ 2) :
      Defect word (.invalidAddressingMode word.ip (target + 1) 1)

theorem defect_of_firstBad
    {word : Word} {opcode : Opcode} {parameter : Nat} (named : word.value.tmod 100 = opcode.code)
    (first : word.FirstBad opcode parameter) : word.Defect (word.modeFault parameter) := by
  rcases first.bad with ⟨targeted, digit⟩ | above
  · rw [modeFault, digit]
    refine .immediate named targeted digit fun other inside => ?_
    have last := arity_of_target targeted
    rcases Nat.lt_or_ge other parameter with lower | higher
    · exact first.earlier other lower
    · obtain rfl : other = parameter := by omega
      omega
  · exact .undefined named first.inside above first.earlier

theorem decode_eq_error_iff {word : Word} {fault : Fault} :
    word.decode = .error fault ↔ word.Defect fault := by
  constructor
  · intro failed
    rcases of_decode_error failed with ⟨unknown, rfl⟩ | ⟨opcode, named, parameter, first, rfl⟩
    · exact .unknown (Opcode.ofCode?_eq_none_iff.1 unknown)
    · exact defect_of_firstBad (Opcode.ofCode?_eq_some_iff.1 named) first
  · intro defect
    cases defect with
    | unknown absent => exact decode_of_unknown (Opcode.ofCode?_eq_none_iff.2 absent)
    | undefined named inside above lowest =>
        exact decode_of_firstBad (Opcode.ofCode?_eq_some_iff.2 named)
          ⟨inside, .inr above, lowest⟩
    | @immediate opcode target named targeted digit defined =>
        have last := arity_of_target targeted
        have failed := decode_of_firstBad (Opcode.ofCode?_eq_some_iff.2 named)
          ⟨by omega, .inl ⟨targeted, digit⟩, fun other lower => defined other (by omega)⟩
        rw [modeFault, digit] at failed
        exact failed

/-- A word whose opcode has a parameter with a bad mode digit does not decode. -/
theorem decode_fails_of_bad
    {word : Word} {opcode : Opcode} {parameter : Nat} (named : word.value.tmod 100 = opcode.code)
    (inside : parameter < opcode.arity)
    (bad : (opcode.target? = some parameter ∧ word.modeDigit parameter = 1) ∨
      2 < word.modeDigit parameter) :
    ∃ fault, word.decode = .error fault := by
  obtain ⟨first, isFirst⟩ := exists_firstBad inside bad
  exact ⟨_, decode_of_firstBad (Opcode.ofCode?_eq_some_iff.2 named) isFirst⟩

/--
The faults of decoding are precise: a word fails to decode with a fault exactly when it has the
defect that the fault tells.  It fails when its remainder by one hundred is the code of no opcode,
when the mode digit of a parameter is above two, and when that of the target is one, and in no other
case.  Mode digits go up to nine; as remainders of divisions toward zero, those of a word with an
opcode are bytes.
-/
theorem decoding_faults_precisely (word : Word) :
    (∀ fault, word.decode = .error fault ↔ word.Defect fault) ∧
    ((∃ fault, word.decode = .error fault) ↔
      ¬ Opcode.IsCode (word.value.tmod 100) ∨
        ∃ opcode : Opcode, word.value.tmod 100 = opcode.code ∧
          ((∃ parameter < opcode.arity, 2 < word.modeDigit parameter) ∨
            ∃ target, opcode.target? = some target ∧ word.modeDigit target = 1)) ∧
    (∀ parameter, 2 < word.modeDigit parameter →
      3 ≤ word.modeDigit parameter ∧ word.modeDigit parameter ≤ 9) ∧
    ∀ opcode : Opcode, word.value.tmod 100 = opcode.code → ∀ parameter,
      byte? ((word.remaining parameter).tmod 10) = some (word.modeDigit parameter) := by
  refine ⟨fun fault => decode_eq_error_iff, ?_, ?_, fun opcode => byte?_remaining⟩
  · constructor
    · rintro ⟨fault, failed⟩
      cases decode_eq_error_iff.1 failed with
      | unknown absent => exact .inl absent
      | undefined named inside above lowest => exact .inr ⟨_, named, .inl ⟨_, inside, above⟩⟩
      | immediate named targeted digit defined =>
          exact .inr ⟨_, named, .inr ⟨_, targeted, digit⟩⟩
    · rintro (absent | ⟨opcode, named, ⟨parameter, inside, above⟩ | ⟨target, targeted, digit⟩⟩)
      · exact ⟨_, decode_eq_error_iff.2 (.unknown absent)⟩
      · exact decode_fails_of_bad named inside (.inr above)
      · have last := arity_of_target targeted
        exact decode_fails_of_bad named (by omega) (.inl ⟨targeted, digit⟩)
  · intro parameter above
    have small := word.modeDigit_lt parameter
    omega

example : decode ⟨-130299, .zero⟩ = .error (.unknownOpcode .zero (-99)) := rfl

example : decode ⟨13901, .zero⟩ = .error (.invalidAddressingMode .zero 1 9) := rfl

end Word

end Intcode
