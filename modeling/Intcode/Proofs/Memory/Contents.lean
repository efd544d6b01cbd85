import Mathlib.Algebra.Group.Int.Defs
import Mathlib.Data.List.Induction
import Intcode.Memory

/-!
# The contents of a memory

A memory stands for a total map from addresses to values.  Whatever calls it has answered, and
wherever its cells have come to lie, each address holds the value last written to it, else the value
that it had at the start, else zero.
-/

namespace Intcode

namespace Memory

/-- The calls that a memory answers.  Two of them name their address by an integer. -/
inductive Call where
  | write (address : Address) (value : Int)
  | writeAt (target value : Int)
  | read (address : Address)
  | readAt (target : Int)
  | get (address : Address)
  deriving DecidableEq, Repr

inductive Answer where
  | done
  | value (value : Int)
  | cell (stored : Option Int)
  | refused (fault : Fault)
  deriving DecidableEq, Repr

def answer (memory : Memory) : Call → Answer × Memory
  | .write address value => (.done, memory.write address value)
  | .writeAt target value =>
      match memory.writeAt target value with
      | .ok after => (.done, after)
      | .error fault => (.refused fault, memory)
  | .read address => (.value (memory.read address), memory)
  | .readAt target =>
      match memory.readAt target with
      | .ok value => (.value value, memory)
      | .error fault => (.refused fault, memory)
  | .get address => (.cell (memory.get? address), memory)

def after (memory : Memory) (calls : List Call) : Memory :=
  calls.foldl (fun memory call => (memory.answer call).2) memory

namespace Call

def written? (address : Address) : Call → Option Int
  | write target value => if target = address then some value else none
  | writeAt target value => if target = address.toNat then some value else none
  | read _ | readAt _ | get _ => none

def lastWritten? (calls : List Call) (address : Address) : Option Int :=
  (calls.filterMap (written? address)).getLast?

end Call

/-- The value at each address after a sequence of calls: the last one written there, else the one
at the start. -/
def contents (start : Address → Int) (calls : List Call) (address : Address) : Int :=
  (Call.lastWritten? calls address).getD (start address)

theorem contents_append_singleton
    (start : Address → Int) (calls : List Call) (call : Call) (address : Address) :
    contents start (calls ++ [call]) address =
      (call.written? address).getD (contents start calls address) := by
  unfold contents Call.lastWritten?
  rw [List.filterMap_append]
  cases wrote : call.written? address with
  | none => simp [wrote]
  | some value => simp [wrote]

@[simp] theorem after_append_singleton (memory : Memory) (calls : List Call) (call : Call) :
    memory.after (calls ++ [call]) = ((memory.after calls).answer call).2 := by
  simp [after]

theorem after_append (memory : Memory) (first second : List Call) :
    memory.after (first ++ second) = (memory.after first).after second :=
  List.foldl_append

theorem two_pow_eq_shiftLeft : (2 : Int) ^ 64 = (1 <<< 64 : Nat) :=
  rfl

theorem readAt_eq_ok_iff {memory : Memory} {target value : Int} :
    memory.readAt target = .ok value ↔
      ∃ address : Address, (address.toNat : Int) = target ∧ value = memory.read address := by
  unfold readAt
  cases located : Address.locate target with
  | error fault =>
      have outside := (Address.locate_eq_error_iff.1 located).1
      refine ⟨nofun, ?_⟩
      rintro ⟨address, same, -⟩
      have inside := address.isLt
      omega
  | ok address =>
      have same := Address.locate_eq_ok_iff.1 located
      constructor
      · rintro ⟨⟩
        exact ⟨address, same, rfl⟩
      · rintro ⟨other, same', rfl⟩
        have equal : other = address := Address.ext (by omega)
        rw [equal]
        rfl

theorem readAt_eq_error_iff {memory : Memory} {target : Int} {fault : Fault} :
    memory.readAt target = .error fault ↔
      (target < 0 ∨ 2 ^ 64 ≤ target) ∧ fault = .invalidAddress target := by
  rw [two_pow_eq_shiftLeft, ← Address.locate_eq_error_iff]
  unfold readAt
  cases Address.locate target <;> simp [Except.map]

theorem writeAt_eq_error_iff {memory : Memory} {target value : Int} {fault : Fault} :
    memory.writeAt target value = .error fault ↔
      (target < 0 ∨ 2 ^ 64 ≤ target) ∧ fault = .invalidAddress target := by
  rw [two_pow_eq_shiftLeft, ← Address.locate_eq_error_iff]
  unfold writeAt
  cases Address.locate target <;> simp [Except.map]

/-- A call writes what it writes, and changes nothing else. -/
theorem read_answer (memory : Memory) (call : Call) (address : Address) :
    (memory.answer call).2.read address = (call.written? address).getD (memory.read address) := by
  cases call with
  | write target value =>
      simp only [answer, Call.written?, read_write]
      by_cases same : target = address
      · subst same
        simp
      · simp [same, Ne.symm same]
  | writeAt target value =>
      simp only [answer, Call.written?, writeAt]
      cases located : Address.locate target with
      | error fault =>
          have outside := (Address.locate_eq_error_iff.1 located).1
          have inside := address.isLt
          have apart : target ≠ address.toNat := by omega
          simp [Except.map, apart]
      | ok found =>
          have same := Address.locate_eq_ok_iff.1 located
          have iff : address = found ↔ target = address.toNat := by
            rw [Address.ext_iff]
            omega
          simp only [Except.map, read_write, iff]
          by_cases here : target = address.toNat <;> simp [here]
  | read other => rfl
  | readAt target =>
      simp only [answer, Call.written?]
      cases memory.readAt target <;> rfl
  | get other => rfl

/-- After any calls, each address holds what was last written to it, else what it held before. -/
theorem read_after (memory : Memory) (calls : List Call) (address : Address) :
    (memory.after calls).read address = contents memory.read calls address := by
  induction calls using List.reverseRecOn with
  | nil => rfl
  | append_singleton calls call ih =>
      rw [after_append_singleton, read_answer, contents_append_singleton, ih]

theorem read_of_get?_eq_some {memory : Memory} {address : Address} {value : Int}
    (stored : memory.get? address = some value) : memory.read address = value := by
  unfold read
  rw [stored]
  rfl

theorem read_of_get?_eq_none {memory : Memory} {address : Address}
    (absent : memory.get? address = none) : memory.read address = 0 := by
  unfold read
  rw [absent]
  rfl

/--
A memory refines a total map.  After any calls, it answers at every address with the value last
written there, else with the cell that it was made with, else with zero; a stored cell agrees with
that, and an integer stands for the address of the same value.  An integer that stands for none is
refused, and a refused write leaves the memory as it is.
-/
theorem calls_refine_contents (cells : List Int) (calls : List Call) :
    let memory := (ofList cells).after calls
    let value := contents (fun address => cells[address.toNat]?.getD 0) calls
    (∀ address, memory.read address = value address) ∧
    (∀ target result, memory.readAt target = .ok result ↔
      ∃ address : Address, (address.toNat : Int) = target ∧ result = value address) ∧
    (∀ address stored, memory.get? address = some stored → stored = value address) ∧
    (∀ address, memory.get? address = none → value address = 0) ∧
    (∀ target fault, memory.readAt target = .error fault ↔
      (target < 0 ∨ 2 ^ 64 ≤ target) ∧ fault = .invalidAddress target) ∧
    (∀ target written fault, memory.writeAt target written = .error fault ↔
      (target < 0 ∨ 2 ^ 64 ≤ target) ∧ fault = .invalidAddress target) ∧
    ∀ target written, target < 0 ∨ 2 ^ 64 ≤ target →
      memory.answer (.writeAt target written) = (.refused (.invalidAddress target), memory) := by
  intro memory value
  have reads : ∀ address, memory.read address = value address := by
    intro address
    have start : (ofList cells).read = fun address => cells[address.toNat]?.getD 0 :=
      funext fun address => read_ofList cells address
    rw [read_after, start]
  refine ⟨reads, ?_, ?_, ?_, ?_, ?_, ?_⟩
  · intro target result
    simp only [readAt_eq_ok_iff, reads]
  · intro address stored found
    rw [← reads, read_of_get?_eq_some found]
  · intro address absent
    rw [← reads, read_of_get?_eq_none absent]
  · intro target fault
    exact readAt_eq_error_iff
  · intro target written fault
    exact writeAt_eq_error_iff
  · intro target written outside
    have refused : memory.writeAt target written = .error (.invalidAddress target) :=
      writeAt_eq_error_iff.2 ⟨outside, rfl⟩
    simp only [answer, refused]

end Memory

end Intcode
