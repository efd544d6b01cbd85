import Mathlib.Algebra.Group.Int.Defs
import Mathlib.Algebra.Group.Nat.Defs
import Intcode.Proofs.Instruction.Decoding

/-!
# Encoding

A word is a number with the opcode in its two low digits and the modes in the next ones, so decoding
is arithmetic: an instruction has one smallest word, its other words differ from that by a multiple
of the power of ten above its last mode digit, and no further word decodes to it.
-/

namespace Intcode

/-! ## Forms -/

/-- An opcode with a mode for each of three parameters.  No instruction has a form that gives a mode
to a parameter that it lacks, or the immediate mode to the one that it writes through. -/
structure Form where
  opcode : Opcode
  modes : Fin 3 → Mode

namespace Form

structure WellFormed (form : Form) : Prop where
  unused (index : Fin 3) (beyond : form.opcode.arity ≤ index) : form.modes index = .position
  target (index : Fin 3) (targeted : form.opcode.target? = some index.val) :
    form.modes index ≠ .immediate

def encode (form : Form) : Nat :=
  form.opcode.code + 100 * (form.modes 0).digit + 1000 * (form.modes 1).digit +
    10000 * (form.modes 2).digit

end Form

namespace Instruction

/-- The form of an instruction.  Parameters that it lacks count as position parameters. -/
def form (instruction : Instruction) : Form where
  opcode := instruction.opcode
  modes index := instruction.modes[index.val]?.getD .position

theorem arity_opcode (instruction : Instruction) :
    instruction.opcode.arity = instruction.modes.length :=
  instruction.length_modes.symm

theorem wellFormed_form (instruction : Instruction) : instruction.form.WellFormed where
  unused index beyond := by
    have absent : instruction.modes[index.val]? = none := by
      apply List.getElem?_eq_none
      rw [length_modes]
      exact beyond
    simp only [form, absent, Option.getD_none]
  target index targeted := by
    obtain ⟨mode, found⟩ := Word.mode_of_target targeted
    simp only [form, found, Option.getD_some]
    cases mode <;> exact nofun

end Instruction

namespace TargetMode

theorem exists_toMode {mode : Mode} (reaches : mode ≠ .immediate) :
    ∃ target : TargetMode, target.toMode = mode := by
  cases mode with
  | position => exact ⟨.position, rfl⟩
  | immediate => exact absurd rfl reaches
  | relative => exact ⟨.relative, rfl⟩

end TargetMode

namespace Form

theorem ext_modes
    {opcode : Opcode} {first second : Fin 3 → Mode} (sameFirst : first 0 = second 0)
    (sameSecond : first 1 = second 1) (sameThird : first 2 = second 2) :
    Form.mk opcode first = Form.mk opcode second := by
  have same : first = second := by
    funext index
    match index with
    | 0 => exact sameFirst
    | 1 => exact sameSecond
    | 2 => exact sameThird
  rw [same]

theorem exists_combine
    (combiner : Combiner) {modes : Fin 3 → Mode}
    (wellFormed : WellFormed ⟨combiner.opcode, modes⟩) :
    ∃ instruction : Instruction, instruction.form = ⟨combiner.opcode, modes⟩ := by
  have reaches : modes 2 ≠ .immediate := by
    apply wellFormed.target 2
    cases combiner <;> rfl
  obtain ⟨target, same⟩ := TargetMode.exists_toMode reaches
  exact ⟨.combine combiner (modes 0) (modes 1) target, ext_modes rfl rfl same⟩

theorem exists_jump
    (condition : Condition) {modes : Fin 3 → Mode}
    (wellFormed : WellFormed ⟨condition.opcode, modes⟩) :
    ∃ instruction : Instruction, instruction.form = ⟨condition.opcode, modes⟩ := by
  have unused : modes 2 = .position := by
    apply wellFormed.unused 2
    cases condition <;> exact Nat.le_refl 2
  exact ⟨.jump condition (modes 0) (modes 1), ext_modes rfl rfl unused.symm⟩

theorem WellFormed.exists_instruction {form : Form} (wellFormed : form.WellFormed) :
    ∃ instruction : Instruction, instruction.form = form := by
  obtain ⟨opcode, modes⟩ := form
  cases opcode with
  | add => exact exists_combine .add wellFormed
  | multiply => exact exists_combine .multiply wellFormed
  | lessThan => exact exists_combine .lessThan wellFormed
  | equals => exact exists_combine .equals wellFormed
  | jumpIfTrue => exact exists_jump .nonzero wellFormed
  | jumpIfFalse => exact exists_jump .zero wellFormed
  | input =>
      obtain ⟨target, same⟩ := TargetMode.exists_toMode (wellFormed.target 0 rfl)
      exact ⟨.input target, ext_modes same (wellFormed.unused 1 (Nat.le_refl 1)).symm
        (wellFormed.unused 2 (Nat.le_succ 1)).symm⟩
  | output =>
      exact ⟨.output (modes 0), ext_modes rfl (wellFormed.unused 1 (Nat.le_refl 1)).symm
        (wellFormed.unused 2 (Nat.le_succ 1)).symm⟩
  | adjustBase =>
      exact ⟨.adjustBase (modes 0), ext_modes rfl (wellFormed.unused 1 (Nat.le_refl 1)).symm
        (wellFormed.unused 2 (Nat.le_succ 1)).symm⟩
  | halt =>
      exact ⟨.halt, ext_modes (wellFormed.unused 0 (Nat.zero_le 0)).symm
        (wellFormed.unused 1 (Nat.zero_le 1)).symm (wellFormed.unused 2 (Nat.zero_le 2)).symm⟩

theorem encode_form (instruction : Instruction) :
    instruction.form.encode = instruction.encode := by
  cases instruction with
  | combine combiner left right target =>
      change combiner.opcode.code + 100 * left.digit + 1000 * right.digit +
          10000 * target.toMode.digit =
        combiner.opcode.code +
          100 * (left.digit + 10 * (right.digit + 10 * (target.toMode.digit + 10 * 0)))
      omega
  | input target => rfl
  | output mode => rfl
  | jump condition value destination =>
      change condition.opcode.code + 100 * value.digit + 1000 * destination.digit + 10000 * 0 =
        condition.opcode.code + 100 * (value.digit + 10 * (destination.digit + 10 * 0))
      omega
  | adjustBase mode => rfl
  | halt => rfl

end Form

/-! ## Digits -/

namespace Instruction

theorem modeDigits_lt (modes : List Mode) : modeDigits modes < 10 ^ modes.length := by
  induction modes with
  | nil => exact Nat.one_pos
  | cons mode rest ih =>
      have small := mode.digit_le
      rw [List.length_cons, Nat.pow_succ]
      simp only [modeDigits, List.foldr_cons] at ih ⊢
      omega

theorem encode_lt (instruction : Instruction) :
    instruction.encode < 10 ^ (2 + instruction.opcode.arity) := by
  have code := Word.code_lt instruction.opcode
  have modes := modeDigits_lt instruction.modes
  rw [arity_opcode, Nat.pow_add]
  unfold encode
  omega

end Instruction

namespace Word

/-- A word spells modes from a parameter on when its digits from there on, read as one number, are
those of the modes. -/
theorem spells_iff {word : Word} {start : Nat} {modes : List Mode} :
    word.Spells start modes ↔
      word.value.natAbs / 100 / 10 ^ start % 10 ^ modes.length =
        Instruction.modeDigits modes := by
  induction modes generalizing start with
  | nil => simp [Spells, Instruction.modeDigits, Nat.mod_one]
  | cons mode rest ih =>
      have small := mode.digit_le
      have shifted : word.value.natAbs / 100 / 10 ^ (start + 1) =
          word.value.natAbs / 100 / 10 ^ start / 10 := by
        rw [Nat.pow_succ, Nat.div_div_eq_div_mul _ (10 ^ start)]
      have split : word.value.natAbs / 100 / 10 ^ start % 10 ^ (rest.length + 1) =
          word.modeDigit start +
            10 * (word.value.natAbs / 100 / 10 ^ start / 10 % 10 ^ rest.length) := by
        rw [Nat.pow_succ, Nat.mul_comm, Nat.mod_mul]
        rfl
      have digit : word.modeDigit start < 10 := Nat.mod_lt _ (by decide)
      rw [Spells, ih, shifted, List.length_cons, split]
      simp only [Instruction.modeDigits, List.foldr_cons]
      omega

/-- The two low digits of a word are an opcode when the word is not negative and they are its
code. -/
theorem ofCode?_code_iff {word : Word} {opcode : Opcode} :
    Opcode.ofCode? word.code = some opcode ↔
      0 ≤ word.value ∧ word.value.natAbs % 100 = opcode.code := by
  have positive : 0 < opcode.code := by cases opcode <;> decide
  rw [Opcode.ofCode?_eq_some_iff]
  unfold code
  rcases Int.le_total 0 word.value with nonnegative | negative
  · rw [Int.tmod_eq_emod_of_nonneg nonnegative]
    omega
  · have low : 0 ≤ (-word.value).tmod 100 := Int.tmod_nonneg 100 (by omega)
    rw [Int.neg_tmod] at low
    omega

/-! ## Words that decode -/

theorem mode_of_modeDigit {word : Word} {parameter : Nat} {mode : Mode}
    (digit : word.modeDigit parameter = mode.digit) : word.mode parameter = .ok mode := by
  unfold Word.mode
  rw [Mode.ofDigit?_eq_some_iff.2 digit]

theorem targetMode_of_modeDigit {word : Word} {parameter : Nat} {mode : TargetMode}
    (digit : word.modeDigit parameter = mode.toMode.digit) :
    word.targetMode parameter = .ok mode := by
  unfold targetMode
  rw [TargetMode.ofDigit?_eq_some_iff.2 digit]

/-- A word with the opcode and the mode digits of an instruction decodes to it. -/
theorem decode_of_spells
    {word : Word} {instruction : Instruction}
    (named : Opcode.ofCode? word.code = some instruction.opcode)
    (spells : word.Spells 0 instruction.modes) : word.decode = .ok instruction := by
  unfold decode
  rw [named]
  cases instruction with
  | combine combiner left right target =>
      obtain ⟨first, second, third, -⟩ := spells
      have read : word.combine combiner = .ok (.combine combiner left right target) := by
        unfold combine
        rw [mode_of_modeDigit first, mode_of_modeDigit second, targetMode_of_modeDigit third]
        rfl
      cases combiner <;> exact read
  | jump condition value destination =>
      obtain ⟨first, second, -⟩ := spells
      have read : word.jump condition = .ok (.jump condition value destination) := by
        unfold jump
        rw [mode_of_modeDigit first, mode_of_modeDigit second]
        rfl
      cases condition <;> exact read
  | input target =>
      simp only [Instruction.opcode]
      rw [targetMode_of_modeDigit spells.1]
      rfl
  | output mode =>
      simp only [Instruction.opcode]
      rw [mode_of_modeDigit spells.1]
      rfl
  | adjustBase mode =>
      simp only [Instruction.opcode]
      rw [mode_of_modeDigit spells.1]
      rfl
  | halt => rfl

theorem decode_eq_ok_iff {word : Word} {instruction : Instruction} :
    word.decode = .ok instruction ↔
      Opcode.ofCode? word.code = some instruction.opcode ∧ word.Spells 0 instruction.modes :=
  ⟨of_decode_ok, fun reads => decode_of_spells reads.1 reads.2⟩

/-- A word decodes to the instruction in whose digits it ends, unless it is negative. -/
theorem decode_eq_ok_iff_emod {word : Word} {instruction : Instruction} :
    word.decode = .ok instruction ↔
      0 ≤ word.value ∧
        word.value % 10 ^ (2 + instruction.opcode.arity) = instruction.encode := by
  have small := code_lt instruction.opcode
  rw [decode_eq_ok_iff, ofCode?_code_iff, spells_iff, Nat.pow_zero, Nat.div_one,
    Instruction.arity_opcode, and_assoc]
  refine and_congr_right fun nonnegative => ?_
  obtain ⟨value, same⟩ := Int.eq_ofNat_of_zero_le nonnegative
  have split : value % 10 ^ (2 + instruction.modes.length) =
      value % 100 + 100 * (value / 100 % 10 ^ instruction.modes.length) := by
    rw [Nat.pow_add, Nat.mod_mul]
  have cast : word.value % 10 ^ (2 + instruction.modes.length) =
      ((value % 10 ^ (2 + instruction.modes.length) : Nat) : Int) := by
    rw [same]
    norm_cast
  rw [cast, split, same, Int.natAbs_natCast, Int.natCast_inj]
  unfold Instruction.encode
  omega

theorem decode_encode (instruction : Instruction) (ip : Address) :
    decode ⟨instruction.encode, ip⟩ = .ok instruction := by
  apply decode_eq_ok_iff_emod.2
  have small : (instruction.encode : Int) < 10 ^ (2 + instruction.opcode.arity) := by
    exact_mod_cast instruction.encode_lt
  exact ⟨Int.natCast_nonneg _, Int.emod_eq_of_lt (Int.natCast_nonneg _) small⟩

example : decode ⟨10000105, .zero⟩ = .ok (.jump .nonzero .immediate .position) := rfl

def form (word : Word) : Except Fault Form :=
  word.decode.map Instruction.form

theorem form_eq_ok_iff {word : Word} {form : Form} :
    word.form = .ok form ↔ ∃ instruction, word.decode = .ok instruction ∧ instruction.form = form :=
  ⟨Fault.of_map_ok, by
    rintro ⟨instruction, decoded, rfl⟩
    rw [Word.form, decoded]
    rfl⟩

theorem form_eq_ok_iff_emod {word : Word} {form : Form} :
    word.form = .ok form ↔
      form.WellFormed ∧ 0 ≤ word.value ∧
        word.value % 10 ^ (2 + form.opcode.arity) = form.encode := by
  rw [form_eq_ok_iff]
  constructor
  · rintro ⟨instruction, decoded, rfl⟩
    rw [Form.encode_form]
    exact ⟨instruction.wellFormed_form, decode_eq_ok_iff_emod.1 decoded⟩
  · rintro ⟨wellFormed, digits⟩
    obtain ⟨instruction, rfl⟩ := wellFormed.exists_instruction
    rw [Form.encode_form] at digits
    exact ⟨instruction, decode_eq_ok_iff_emod.2 digits, rfl⟩

end Word

/-- The smallest word of an instruction is that of its form, and so the form settles the
instruction. -/
theorem Instruction.form_injective : Function.Injective Instruction.form := by
  intro first second same
  have encoded : first.encode = second.encode := by
    rw [← Form.encode_form, ← Form.encode_form, same]
  have decoded := Word.decode_encode first .zero
  rw [encoded, Word.decode_encode] at decoded
  exact (Except.ok.inj decoded).symm

namespace Form

theorem WellFormed.encode_lt {form : Form} (wellFormed : form.WellFormed) :
    form.encode < 10 ^ (2 + form.opcode.arity) := by
  obtain ⟨instruction, rfl⟩ := wellFormed.exists_instruction
  rw [encode_form]
  exact instruction.encode_lt

/-- The numbers that end in the digits of a form are its smallest word and those that differ from
it by a multiple of the power of ten above its last mode digit. -/
theorem WellFormed.emod_eq_encode_iff
    {form : Form} (wellFormed : form.WellFormed) {value : Int} :
    0 ≤ value ∧ value % 10 ^ (2 + form.opcode.arity) = form.encode ↔
      ∃ higher : Nat, value = form.encode + higher * 10 ^ (2 + form.opcode.arity) := by
  have small : (form.encode : Int) < 10 ^ (2 + form.opcode.arity) := by
    exact_mod_cast wellFormed.encode_lt
  generalize (10 : Int) ^ (2 + form.opcode.arity) = power at small
  have positive : 0 < power := by omega
  constructor
  · rintro ⟨nonnegative, same⟩
    have quotient : 0 ≤ value / power := Int.ediv_nonneg nonnegative (Int.le_of_lt positive)
    obtain ⟨higher, counted⟩ := Int.eq_ofNat_of_zero_le quotient
    refine ⟨higher, ?_⟩
    rw [← same, ← counted, Int.emod_add_ediv_mul]
  · rintro ⟨higher, rfl⟩
    have above : 0 ≤ (higher : Int) * power :=
      Int.mul_nonneg (Int.natCast_nonneg higher) (Int.le_of_lt positive)
    refine ⟨by omega, ?_⟩
    rw [Int.add_mul_emod_self_right]
    exact Int.emod_eq_of_lt (Int.natCast_nonneg _) small

end Form

/--
Decoding inverts encoding.  Different instructions have different forms, and a word decodes to a
form exactly when the form is well formed and the word is its smallest one or differs from that
above the last mode digit.  And so each well-formed form is read back from its smallest word, no
negative word decodes, digits above the last mode digit never matter, and two words that decode have
the same form exactly when they agree below that.
-/
theorem decoding_inverts_encoding :
    Function.Injective Instruction.form ∧
    (∀ (word : Word) (form : Form), word.form = .ok form ↔
      form.WellFormed ∧
        ∃ higher : Nat, word.value = form.encode + higher * 10 ^ (2 + form.opcode.arity)) ∧
    (∀ (form : Form) (ip : Address), form.WellFormed →
      Word.form ⟨form.encode, ip⟩ = .ok form) ∧
    (∀ (word : Word) (form : Form), word.value < 0 → word.form ≠ .ok form) ∧
    (∀ (word other : Word) (form : Form), word.form = .ok form → 0 ≤ other.value →
      other.value % 10 ^ (2 + form.opcode.arity) = word.value % 10 ^ (2 + form.opcode.arity) →
        other.form = .ok form) ∧
    ∀ (word other : Word) (form otherForm : Form),
      word.form = .ok form → other.form = .ok otherForm →
        (form = otherForm ↔
          word.value % 10 ^ (2 + form.opcode.arity) =
            other.value % 10 ^ (2 + form.opcode.arity)) := by
  have sameForm : ∀ (word other : Word) (form : Form), word.form = .ok form → 0 ≤ other.value →
      other.value % 10 ^ (2 + form.opcode.arity) = word.value % 10 ^ (2 + form.opcode.arity) →
        other.form = .ok form := by
    intro word other form read nonnegative agree
    obtain ⟨wellFormed, -, digits⟩ := Word.form_eq_ok_iff_emod.1 read
    exact Word.form_eq_ok_iff_emod.2 ⟨wellFormed, nonnegative, agree.trans digits⟩
  refine ⟨Instruction.form_injective, ?_, ?_, ?_, sameForm, ?_⟩
  · intro word form
    rw [Word.form_eq_ok_iff_emod]
    exact and_congr_right fun wellFormed => wellFormed.emod_eq_encode_iff
  · intro form ip wellFormed
    apply Word.form_eq_ok_iff_emod.2
    exact ⟨wellFormed, wellFormed.emod_eq_encode_iff.2 ⟨0, by simp⟩⟩
  · intro word form negative read
    obtain ⟨-, nonnegative, -⟩ := Word.form_eq_ok_iff_emod.1 read
    omega
  · intro word other form otherForm read readOther
    obtain ⟨-, -, digits⟩ := Word.form_eq_ok_iff_emod.1 read
    obtain ⟨-, nonnegative, digitsOther⟩ := Word.form_eq_ok_iff_emod.1 readOther
    constructor
    · rintro rfl
      rw [digits, digitsOther]
    · intro agree
      have again := sameForm word other form read nonnegative agree.symm
      rw [readOther] at again
      exact (Except.ok.inj again).symm

end Intcode
