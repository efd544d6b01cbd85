import Intcode.Proofs.Instruction.Decoding
import Intcode.Proofs.Machine.Chunks
import Intcode.Proofs.Machine.Effects

/-!
# What a fault leaves behind

A fault stops a machine at the instruction in which it arises.  A word that does not decode has
changed nothing.  A number that is no address has changed nothing either, except that an input
instruction has taken its value by then.  Only where the address space ends is the instruction done:
it took effect as it does everywhere, and it is the next one that is missing.
-/

namespace Intcode

namespace Machine

def word (machine : Machine) : Word :=
  ⟨machine.memory.read machine.ip, machine.ip⟩

/--
What a fault leaves of a machine, apart from the phase: after a word that does not decode, after a
number that is no address, and at the end of the address space.
-/
inductive Residue (before : Machine) : Fault → Machine → Prop where
  | opcode (unknown : Opcode.ofCode? before.word.code = none) :
      Residue before (.unknownOpcode before.ip before.word.code) before
  | mode {opcode : Opcode} {parameter : Nat}
      (named : Opcode.ofCode? before.word.code = some opcode) (inside : parameter < opcode.arity) :
      Residue before
        (.invalidAddressingMode before.ip (parameter + 1) (before.word.modeDigit parameter)) before
  | address {instruction : Instruction} {value : Int} {spent : Machine}
      (fetched : before.fetch = .ok instruction)
      (first : Address.firstOutside? (before.references instruction) = some value)
      (spends : Spent before instruction spent) : Residue before (.invalidAddress value) spent
  | overrun {instruction : Instruction} {effected : Machine}
      (fetched : before.fetch = .ok instruction) (effect : Effect before instruction effected)
      (outside : 2 ^ 64 ≤ before.ip.toNat + instruction.width) :
      Residue before (.invalidAddress (before.ip.toNat + instruction.width)) effected

/-- A turn that faults leaves a residue, faulted. -/
theorem residue_of_turn
    {before after : Machine} {fault : Fault} (started : before.phase = .running)
    (turned : before.turn = .stopped (.error fault) after) :
    ∃ left, Residue before fault left ∧ after = { left with phase := .faulted } := by
  cases turnsTo_of_stopped started turned with
  | undecodable unfetched =>
      refine ⟨before, ?_, rfl⟩
      rcases Word.of_decode_error unfetched with
        ⟨unknown, rfl⟩ | ⟨opcode, named, parameter, first, rfl⟩
      · exact .opcode unknown
      · exact .mode named first.inside
  | missed fetched names spends =>
      obtain ⟨value, rfl, first⟩ := names
      exact ⟨_, .address fetched first spends, rfl⟩
  | overran fetched effect outside => exact ⟨_, .overrun fetched effect outside, rfl⟩

theorem Residue.ip {before left : Machine} {fault : Fault} (residue : Residue before fault left) :
    left.ip = before.ip := by
  cases residue with
  | opcode unknown => rfl
  | mode named inside => rfl
  | address fetched first spends => exact spends.ip
  | overrun fetched effect outside => exact effect.ip

/-- A turn over a word with an immediate target faults at the target or before it. -/
theorem Residue.fault_of_immediate
    {before left : Machine} {fault : Fault} {opcode : Opcode} {index : Nat}
    (residue : Residue before fault left)
    (named : Opcode.ofCode? before.word.code = some opcode)
    (targeted : opcode.target? = some index) (immediate : before.word.modeDigit index = 1) :
    ∃ parameter ≤ index, fault = before.word.modeFault parameter := by
  obtain ⟨bad, -, undecodable⟩ := Word.decode_of_immediate_target named targeted immediate
  have unfetched : before.fetch = .error (before.word.modeFault bad) := undecodable
  cases residue with
  | opcode unknown =>
      rw [unknown] at named
      cases named
  | @mode other parameter named' inside =>
      obtain rfl := Option.some.inj (named.symm.trans named')
      have last := Word.arity_of_target targeted
      exact ⟨parameter, by omega, rfl⟩
  | address fetched first spends =>
      rw [unfetched] at fetched
      cases fetched
  | overrun fetched effect outside =>
      rw [unfetched] at fetched
      cases fetched

/--
What a fault leaves behind.  A run that faults has a last turn, from a machine that the run had
come to; what the run took and put out until then stays taken and put out.  The fault leaves the
instruction pointer where it was.  A fault of decoding names the instruction pointer and leaves all
else as it was; so does an immediate target, which no instruction has that decodes.  A fault that
names an address names a number outside the address space: the first such number that the
instruction examines, and then at most the value of an input instruction is gone; or the end of the
instruction, which has then taken effect.
-/
theorem fault_residue
    {machine after : Machine} {fault : Fault}
    (live : machine.phase = .ready ∨ machine.phase = .blocked)
    (returns : machine.Returns (.error fault) after) :
    ∃ count before, machine.resume.progress count = .running before ∧
      before.turn = .stopped (.error fault) after ∧
      (∃ taken emitted, Channel.Exchange taken emitted machine.channel before.channel) ∧
      after.phase = .faulted ∧ after.ip = before.ip ∧
      (∀ opcode index, Opcode.ofCode? before.word.code = some opcode →
        opcode.target? = some index → before.word.modeDigit index = 1 →
          ∃ parameter ≤ index, fault = before.word.modeFault parameter) ∧
      (∀ instruction index, before.fetch = .ok instruction →
        instruction.opcode.target? = some index →
          ∃ mode : TargetMode, instruction.modes[index]? = some mode.toMode) ∧
      match fault with
      | .unknownOpcode ip code =>
          ip = before.ip ∧ code = before.word.code ∧ after = { before with phase := .faulted }
      | .invalidAddressingMode ip _ _ =>
          ip = before.ip ∧ after = { before with phase := .faulted }
      | .invalidAddress value =>
          (value < 0 ∨ 2 ^ 64 ≤ value) ∧ ∃ instruction, before.fetch = .ok instruction ∧
            ((Address.firstOutside? (before.references instruction) = some value ∧
                ∃ spent, Spent before instruction spent ∧
                  after = { spent with phase := .faulted }) ∨
              (value = before.ip.toNat + instruction.width ∧
                ∃ effected, Effect before instruction effected ∧
                  before.execute instruction = (.ok .advance, effected) ∧
                  after = { effected with phase := .faulted }))
      | .malformedProgram _ _ | .invalidTransition _ _ => False := by
  have unstopped := isStopped_of_live live
  obtain ⟨count, before, reached, started, turned⟩ := returns.last_turn unstopped
  have entered : machine.resume.phase = .running := rfl
  obtain ⟨taken, emitted, trades⟩ := progress_trades entered count
  have exchange := trades.exchange
  rw [reached] at exchange
  obtain ⟨left, residue, rfl⟩ := residue_of_turn started turned
  refine ⟨count, before, reached, turned, ⟨taken, emitted, exchange⟩, rfl, residue.ip, ?_, ?_, ?_⟩
  · intro opcode index named targeted immediate
    exact residue.fault_of_immediate named targeted immediate
  · intro instruction index fetched targeted
    exact Word.mode_of_target targeted
  · cases residue with
    | opcode unknown => exact ⟨rfl, rfl, rfl⟩
    | mode named inside => exact ⟨rfl, rfl⟩
    | @address instruction value spent fetched first spends =>
        have outside := Address.isOutside_iff.1 (Address.isOutside_of_first first)
        exact ⟨outside, instruction, fetched, .inl ⟨first, left, spends, rfl⟩⟩
    | @overrun instruction effected fetched effect outside =>
        refine ⟨.inr (by omega), instruction, fetched, .inr ⟨rfl, left, effect, ?_, rfl⟩⟩
        exact effect.execute_eq

/-- A program that stores its input at an address that is none. -/
def misdirected : Machine :=
  (empty.start ⟨[104, 8, 3, -1, 99]⟩).feed [5, 6]

/-- The program puts out a value, takes the first of its inputs, and then faults. -/
theorem fault_residue_misdirected :
    (misdirected.phase = .ready ∨ misdirected.phase = .blocked) ∧
      ∃ after, misdirected.Returns (.error (.invalidAddress (-1))) after ∧
        after.phase = .faulted ∧ after.ip.toNat = 2 ∧ after.channel.input = [6] ∧
        after.channel.output = #[8] ∧
        ∃ count before, misdirected.resume.progress count = .running before ∧
          after.ip = before.ip ∧ ((-1 : Int) < 0 ∨ 2 ^ 64 ≤ (-1 : Int)) := by
  have live : misdirected.phase = .ready ∨ misdirected.phase = .blocked := .inl rfl
  have faults : ∃ after, misdirected.Returns (.error (.invalidAddress (-1))) after ∧
      after.ip.toNat = 2 ∧ after.channel.input = [6] ∧ after.channel.output = #[8] :=
    ⟨_, ⟨2, by rfl⟩, by rfl, by rfl, by rfl⟩
  obtain ⟨after, returns, ip, input, output⟩ := faults
  obtain ⟨count, before, reached, -, -, stopped, kept, -, -, outside, -⟩ :=
    fault_residue live returns
  exact ⟨live, after, returns, stopped, ip, input, output, count, before, reached, kept, outside⟩

end Machine

end Intcode
