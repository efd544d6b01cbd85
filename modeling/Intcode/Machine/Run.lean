import Intcode.Machine.Cycle

/-!
# Running a machine

A run repeats cycles until the program halts, waits for input or faults.  A program need not stop,
so a run has a limit on its cycles: the answer is `none` when the limit is used up, and any limit
that is not used up gives the same answer.
-/

namespace Intcode

namespace Machine

def spin : Nat → Machine → Option (Except Fault Phase × Machine)
  | 0, _ => none
  | limit + 1, machine =>
      match machine.cycle with
      | (.error fault, after) => some (.error fault, { after with phase := .faulted })
      | (.ok (), after) =>
          if after.phase = .running then spin limit after else some (.ok after.phase, after)

/-- Run until the program halts, waits for input or faults.  A stopped machine refuses. -/
def run (limit : Nat) (machine : Machine) : Option (Except Fault Phase × Machine) :=
  if machine.phase.isStopped then
    some (.error (.invalidTransition machine.phase .run), machine)
  else
    spin limit { machine with phase := .running }

/-- A stopped machine refuses to run and stays as it is. -/
theorem run_of_isStopped
    {machine : Machine} (stopped : machine.phase.isStopped = true) (limit : Nat) :
    machine.run limit = some (.error (.invalidTransition machine.phase .run), machine) := by
  simp [run, stopped]

/-- A larger limit gives the same answer. -/
theorem spin_mono
    {machine : Machine} {limit larger : Nat} {answer : Except Fault Phase × Machine}
    (spun : spin limit machine = some answer) (le : limit ≤ larger) :
    spin larger machine = some answer := by
  induction limit generalizing machine larger with
  | zero => cases spun
  | succ limit ih =>
      obtain ⟨larger, rfl⟩ : ∃ smaller, larger = smaller + 1 := ⟨larger - 1, by omega⟩
      unfold spin at spun ⊢
      split <;> rename_i outcome
      · simpa [outcome] using spun
      · rename_i after
        simp only [outcome] at spun
        by_cases running : after.phase = .running
        · simp only [running, if_true] at spun ⊢
          exact ih spun (by omega)
        · simpa [running] using spun

theorem run_mono
    {machine : Machine} {limit larger : Nat} {answer : Except Fault Phase × Machine}
    (ran : machine.run limit = some answer) (le : limit ≤ larger) :
    machine.run larger = some answer := by
  unfold run at ran ⊢
  split <;> rename_i stopped
  · simpa [stopped] using ran
  · simp only [stopped] at ran
    exact spin_mono (by simpa using ran) le

end Machine

end Intcode
