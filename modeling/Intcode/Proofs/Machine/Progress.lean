import Intcode.Machine.Run

/-!
# Progress of a run

A run repeats one turn: a cycle, and the decision whether another one follows.  Counting the turns
gives a machine to look at after each of them, also while the run goes on; the answer of a run with
a limit is read off the progress that it has made when the limit is used up.
-/

namespace Intcode

inductive Progress (fault machine : Type) where
  | running (current : machine)
  | stopped (result : Except fault Phase) (last : machine)

namespace Progress

variable {fault machine : Type}

def reached : Progress fault machine → machine
  | running current => current
  | stopped _ last => last

def answer? : Progress fault machine → Option (Except fault Phase × machine)
  | running _ => none
  | stopped result last => some (result, last)

def andThen (progress : Progress fault machine) (further : machine → Progress fault machine) :
    Progress fault machine :=
  match progress with
  | running current => further current
  | stopped result last => .stopped result last

def map {other : Type} (change : machine → other) : Progress fault machine → Progress fault other
  | running current => running (change current)
  | stopped result last => stopped result (change last)

def Waits : Progress fault machine → Prop
  | stopped (.ok .blocked) _ => True
  | _ => False

def iterate (turn : machine → Progress fault machine) : Nat → machine → Progress fault machine
  | 0, current => running current
  | count + 1, current => (turn current).andThen (iterate turn count)

theorem iterate_add
    (turn : machine → Progress fault machine) (first second : Nat) (current : machine) :
    iterate turn (first + second) current =
      (iterate turn first current).andThen (iterate turn second) := by
  induction first generalizing current with
  | zero =>
      rw [Nat.zero_add]
      rfl
  | succ first ih =>
      rw [Nat.succ_add]
      simp only [iterate]
      cases turn current with
      | running next => exact ih next
      | stopped result last => rfl

theorem waits_stopped_iff {result : Except fault Phase} {last : machine} :
    (stopped result last).Waits ↔ result = .ok .blocked := by
  cases result with
  | error cause => exact ⟨nofun, nofun⟩
  | ok phase =>
      constructor
      · intro waits
        cases phase <;> first | rfl | cases waits
      · rintro ⟨⟩
        trivial

/--
Two runs correspond when both go on, or both stopped with the same phase or with corresponding
faults, at corresponding machines.
-/
inductive Related {fault' machine' : Type} (faults : fault → fault' → Prop)
    (machines : machine → machine' → Prop) :
    Progress fault machine → Progress fault' machine' → Prop where
  | running {current : machine} {current' : machine'} (same : machines current current') :
      Related faults machines (.running current) (.running current')
  | stopped {phase : Phase} {last : machine} {last' : machine'} (same : machines last last') :
      Related faults machines (.stopped (.ok phase) last) (.stopped (.ok phase) last')
  | faulted {cause : fault} {cause' : fault'} {last : machine} {last' : machine'}
      (alike : faults cause cause') (same : machines last last') :
      Related faults machines (.stopped (.error cause) last) (.stopped (.error cause') last')

end Progress

namespace Machine

def turn (machine : Machine) : Progress Fault Machine :=
  match machine.cycle with
  | (.error fault, after) => .stopped (.error fault) { after with phase := .faulted }
  | (.ok (), after) =>
      if after.phase = .running then .running after else .stopped (.ok after.phase) after

def progress (machine : Machine) (count : Nat) : Progress Fault Machine :=
  Progress.iterate turn count machine

def resume (machine : Machine) : Machine :=
  { machine with phase := .running }

/-- The run of a machine ends with a result. -/
def Returns (machine : Machine) (result : Except Fault Phase) (after : Machine) : Prop :=
  ∃ limit, machine.run limit = some (result, after)

theorem progress_succ (machine : Machine) (count : Nat) :
    machine.progress (count + 1) = machine.turn.andThen (·.progress count) :=
  rfl

/-- A loop that goes on after a turn goes on from the machine that the turn leaves. -/
theorem progress_of_turn_running {machine next : Machine}
    (turned : machine.turn = .running next) (count : Nat) :
    machine.progress (count + 1) = next.progress count := by
  rw [progress_succ, turned]
  rfl

theorem progress_of_turn_stopped {machine last : Machine} {result : Except Fault Phase}
    (turned : machine.turn = .stopped result last) (count : Nat) :
    machine.progress (count + 1) = .stopped result last := by
  rw [progress_succ, turned]
  rfl

theorem progress_add (machine : Machine) (first second : Nat) :
    machine.progress (first + second) = (machine.progress first).andThen (·.progress second) :=
  Progress.iterate_add turn first second machine

/-- A loop that is going on goes on from the machine that it has come to. -/
theorem progress_of_progress_running {machine middle : Machine} {first : Nat}
    (reached : machine.progress first = .running middle) (second : Nat) :
    machine.progress (first + second) = middle.progress second := by
  rw [progress_add, reached]
  rfl

theorem spin_eq_answer? (limit : Nat) (machine : Machine) :
    spin limit machine = (machine.progress limit).answer? := by
  induction limit generalizing machine with
  | zero => rfl
  | succ limit ih =>
      rw [progress_succ]
      unfold spin turn
      obtain ⟨outcome, after⟩ := machine.cycle
      cases outcome with
      | error fault => rfl
      | ok done =>
          simp only
          by_cases running : after.phase = .running
          · rw [if_pos running, if_pos running]
            exact ih after
          · rw [if_neg running, if_neg running]
            rfl

/-- A run of a machine that is not stopped answers with the progress of its loop. -/
theorem run_eq_answer?
    {machine : Machine} (live : machine.phase.isStopped = false) (limit : Nat) :
    machine.run limit = (machine.resume.progress limit).answer? := by
  unfold run
  rw [if_neg (by simp [live])]
  exact spin_eq_answer? limit machine.resume

/-- A run whose limit lets its loop stop answers with what the loop stops with. -/
theorem run_of_progress_stopped
    {machine last : Machine} {result : Except Fault Phase} {limit : Nat}
    (live : machine.phase.isStopped = false)
    (stopped : machine.resume.progress limit = .stopped result last) :
    machine.run limit = some (result, last) := by
  rw [run_eq_answer? live, stopped]
  rfl

/-- A run returns exactly when its loop stops after some number of turns. -/
theorem returns_iff
    {machine after : Machine} {result : Except Fault Phase}
    (live : machine.phase.isStopped = false) :
    machine.Returns result after ↔
      ∃ count, machine.resume.progress count = .stopped result after := by
  refine exists_congr fun limit => ?_
  rw [run_eq_answer? live]
  cases machine.resume.progress limit with
  | running current => simp [Progress.answer?]
  | stopped last => simp [Progress.answer?]

theorem Returns.unique
    {machine first second : Machine} {result other : Except Fault Phase}
    (returns : machine.Returns result first) (again : machine.Returns other second) :
    result = other ∧ first = second := by
  obtain ⟨limit, ran⟩ := returns
  obtain ⟨larger, ranAgain⟩ := again
  have extended := run_mono ran (Nat.le_max_left limit larger)
  have extendedAgain := run_mono ranAgain (Nat.le_max_right limit larger)
  rw [extended] at extendedAgain
  simpa using extendedAgain

/-- What a turn comes to once its instruction, which takes some cells, has been executed. -/
def settle (width : Nat) : Except Fault Step × Machine → Progress Fault Machine
  | (.error fault, after) => .stopped (.error fault) { after with phase := .faulted }
  | (.ok .advance, after) =>
      match after.ip.offset? width with
      | some next => .running { after with ip := next }
      | none =>
          .stopped (.error (.invalidAddress (after.ip.toNat + width)))
            { after with phase := .faulted }
  | (.ok (.jump destination), after) => .running { after with ip := destination }
  | (.ok .block, after) => .stopped (.ok .blocked) { after with phase := .blocked }
  | (.ok .halt, after) => .stopped (.ok .halted) { after with phase := .halted }

theorem turn_of_fetch_error
    {machine : Machine} {fault : Fault} (undecodable : machine.fetch = .error fault) :
    machine.turn = .stopped (.error fault) { machine with phase := .faulted } := by
  unfold turn
  rw [cycle_of_fetch_error undecodable]

/-- Executing an instruction leaves the phase to the step that follows. -/
@[simp] theorem phase_execute (machine : Machine) (instruction : Instruction) :
    (machine.execute instruction).2.phase = machine.phase := by
  cases instruction with
  | combine combiner left right target =>
      simp only [execute]
      split <;> rfl
  | input target =>
      simp only [execute]
      split
      · rfl
      · split <;> rfl
  | output value =>
      simp only [execute]
      split <;> rfl
  | jump condition value destination => rfl
  | adjustBase offset =>
      simp only [execute]
      split <;> rfl
  | halt => rfl

/-- A turn of a running machine executes its instruction and settles what follows. -/
theorem turn_of_fetch
    {machine : Machine} {instruction : Instruction} (started : machine.phase = .running)
    (fetched : machine.fetch = .ok instruction) :
    machine.turn = settle instruction.width (machine.execute instruction) := by
  have kept := machine.phase_execute instruction
  unfold turn cycle
  simp only [fetched]
  rcases executed : machine.execute instruction with ⟨outcome, after⟩
  rw [executed] at kept
  have running : after.phase = .running := kept.trans started
  cases outcome with
  | error fault => rfl
  | ok step =>
      cases step with
      | advance =>
          simp only [follow, settle]
          cases after.ip.offset? instruction.width with
          | some next => simp [running]
          | none => rfl
      | jump destination => simp [follow, settle, running]
      | block => rfl
      | halt => rfl

/-- The loop goes on only from machines that are running. -/
theorem phase_of_turn_running
    {machine next : Machine} (turned : machine.turn = .running next) : next.phase = .running := by
  unfold turn at turned
  split at turned
  · cases turned
  · split at turned
    · next running =>
        cases turned
        exact running
    · cases turned

/-- A turn that ends without a fault leaves the machine blocked or halted. -/
theorem phase_of_turn_stopped
    {machine last : Machine} {phase : Phase} (started : machine.phase = .running)
    (turned : machine.turn = .stopped (.ok phase) last) :
    last.phase = phase ∧ (phase = .blocked ∨ phase = .halted) := by
  cases fetched : machine.fetch with
  | error fault =>
      rw [turn_of_fetch_error fetched] at turned
      cases turned
  | ok instruction =>
      rw [turn_of_fetch started fetched] at turned
      rcases executed : machine.execute instruction with ⟨outcome, after⟩
      rw [executed] at turned
      cases outcome with
      | error fault => cases turned
      | ok step =>
          cases step with
          | advance =>
              simp only [settle] at turned
              split at turned <;> cases turned
          | jump destination => cases turned
          | block =>
              cases turned
              exact ⟨rfl, .inl rfl⟩
          | halt =>
              cases turned
              exact ⟨rfl, .inr rfl⟩

theorem phase_of_progress_stopped
    {machine last : Machine} {phase : Phase} {count : Nat} (started : machine.phase = .running)
    (stopped : machine.progress count = .stopped (.ok phase) last) :
    last.phase = phase ∧ (phase = .blocked ∨ phase = .halted) := by
  induction count generalizing machine with
  | zero => cases stopped
  | succ count ih =>
      cases turned : machine.turn with
      | running next =>
          rw [progress_of_turn_running turned] at stopped
          exact ih (phase_of_turn_running turned) stopped
      | stopped result final =>
          rw [progress_of_turn_stopped turned] at stopped
          cases stopped
          exact phase_of_turn_stopped started turned

/-- A run that ends without a fault leaves the machine in the phase that it answers with. -/
theorem Returns.phase
    {machine after : Machine} {phase : Phase} (live : machine.phase.isStopped = false)
    (returns : machine.Returns (.ok phase) after) :
    after.phase = phase ∧ (phase = .blocked ∨ phase = .halted) := by
  have started : machine.resume.phase = .running := rfl
  obtain ⟨count, stopped⟩ := (returns_iff live).1 returns
  exact phase_of_progress_stopped started stopped

end Machine

end Intcode
