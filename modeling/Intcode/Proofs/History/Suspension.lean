import Intcode.Proofs.History.Calls

/-!
# Where a machine is suspended

A blocked machine stands at an input instruction, and a halted one at a halt.  A machine that is
blocked without input stays as it is however often it is run; with input, its next turn takes the
first value, to store it or to fault over its target.
-/

namespace Intcode

namespace Machine

/-- A machine that waits stands at an input instruction, and one that has halted at a halt. -/
structure StandsAt (machine : Machine) : Prop where
  input (blocked : machine.phase = .blocked) : ∃ target, machine.fetch = .ok (.input target)
  halt (halted : machine.phase = .halted) : machine.fetch = .ok .halt

/-- A run leaves the machine standing where its last turn stopped. -/
theorem standsAt_of_returns
    {machine after : Machine} {result : Except Fault Phase} (live : machine.phase.isStopped = false)
    (returns : machine.Returns result after) : after.StandsAt := by
  obtain ⟨count, before, -, started, turned⟩ := returns.last_turn live
  cases turnsTo_of_stopped started turned with
  | undecodable unfetched => exact ⟨nofun, nofun⟩
  | missed fetched named spends => exact ⟨nofun, nofun⟩
  | overran fetched effect outside => exact ⟨nofun, nofun⟩
  | @waited target fetched empty => exact ⟨fun _ => ⟨target, fetched⟩, nofun⟩
  | halted fetched => exact ⟨nofun, fun _ => fetched⟩

theorem History.standsAt
    {machine : Machine} {calls : List (Call × Reply)} {events : List Channel.Event}
    (history : History empty calls events machine) : machine.StandsAt := by
  apply History.invariant StandsAt _ _ _ history ⟨nofun, nofun⟩
  · intro machine program
    exact ⟨nofun, nofun⟩
  · intro machine channel stands
    exact ⟨stands.input, stands.halt⟩
  · intro machine result after stands live returns
    exact standsAt_of_returns live returns

/-! ## Waiting without input -/

/-- A machine that is blocked without input is blocked again by its next turn. -/
theorem turn_of_starved
    {machine : Machine} {target : TargetMode} (blocked : machine.phase = .blocked)
    (fetched : machine.fetch = .ok (.input target)) (empty : machine.channel.input = []) :
    machine.resume.turn = .stopped (.ok .blocked) machine := by
  have started : machine.resume.phase = .running := rfl
  have fetched' : machine.resume.fetch = .ok (.input target) := fetched
  have empty' : machine.resume.channel.input = [] := empty
  have same : ({ machine.resume with phase := .blocked } : Machine) = machine := by
    unfold resume
    rw [← blocked]
  rw [turn_of_empty started fetched' empty']
  exact congrArg _ same

/-- A run of a machine that is blocked without input returns at once, with the same machine. -/
theorem run_of_starved
    {machine : Machine} {target : TargetMode} (blocked : machine.phase = .blocked)
    (fetched : machine.fetch = .ok (.input target)) (empty : machine.channel.input = [])
    (limit : Nat) : machine.run (limit + 1) = some (.ok .blocked, machine) := by
  have live : machine.phase.isStopped = false := congrArg Phase.isStopped blocked
  exact run_of_progress_stopped live
    (progress_of_turn_stopped (turn_of_starved blocked fetched empty) limit)

theorem eq_of_starved_run
    {machine after : Machine} {limit : Nat} {target : TargetMode} {result : Except Fault Phase}
    (blocked : machine.phase = .blocked) (fetched : machine.fetch = .ok (.input target))
    (empty : machine.channel.input = []) (ran : machine.run limit = some (result, after)) :
    result = .ok .blocked ∧ after = machine := by
  have again : machine.Returns (.ok .blocked) machine :=
    ⟨0 + 1, run_of_starved blocked fetched empty 0⟩
  have returns : machine.Returns result after := ⟨limit, ran⟩
  exact returns.unique again

/-- However often a machine that is blocked without input is run, it stays as it is. -/
theorem History.of_starved
    {machine after : Machine} {calls : List (Call × Reply)} {events : List Channel.Event}
    {target : TargetMode} (history : History machine calls events after)
    (blocked : machine.phase = .blocked) (fetched : machine.fetch = .ok (.input target))
    (empty : machine.channel.input = []) (runs : ∀ entry ∈ calls, entry.1 = .run) :
    after = machine ∧ ∀ entry ∈ calls, entry.2 = .phase (.ok .blocked) := by
  induction history with
  | nil machine =>
      refine ⟨rfl, fun entry listed => ?_⟩
      cases listed
  | @cons machine middle after call reply limit calls events answered further ih =>
      obtain rfl : call = .run := runs (call, reply) List.mem_cons_self
      obtain ⟨⟨result, last⟩, ran, same⟩ := Option.map_eq_some_iff.1 answered
      cases same
      obtain ⟨rfl, rfl⟩ := eq_of_starved_run blocked fetched empty ran
      obtain ⟨kept, replies⟩ := ih blocked fetched empty fun entry later =>
        runs entry (List.mem_cons_of_mem _ later)
      refine ⟨kept, fun entry listed => ?_⟩
      rcases List.mem_cons.1 listed with rfl | later
      · rfl
      · exact replies entry later

/-! ## Going on with input -/

/--
What the turn of an input instruction makes of the first value of the input: it is stored and the
next instruction follows, or it is stored and no next instruction fits into the address space, or
its target is no address.
-/
inductive TakesFirst (machine : Machine) (target : TargetMode) (value : Int) (rest : List Int) :
    Progress Fault Machine → Prop where
  | stored {address next : Address} (found : machine.target 0 target = .ok address)
      (inside : next.toNat = machine.ip.toNat + 2) :
      TakesFirst machine target value rest
        (.running
          { machine with
            memory := machine.memory.write address value
            ip := next
            channel := { machine.channel with input := rest } })
  | overran {address : Address} (found : machine.target 0 target = .ok address)
      (outside : 2 ^ 64 ≤ machine.ip.toNat + 2) :
      TakesFirst machine target value rest
        (.stopped (.error (.invalidAddress (machine.ip.toNat + 2)))
          { machine with
            memory := machine.memory.write address value
            channel := { machine.channel with input := rest }
            phase := .faulted })
  | missed {number : Int} (named : machine.reference? 0 target.toMode = some number)
      (outside : number < 0 ∨ 2 ^ 64 ≤ number) :
      TakesFirst machine target value rest
        (.stopped (.error (.invalidAddress number))
          { machine with
            channel := { machine.channel with input := rest }
            phase := .faulted })

theorem reference_of_first
    {machine : Machine} {target : TargetMode} {number : Int} {value : Int} {rest : List Int}
    (pending : machine.channel.input = value :: rest)
    (first : Address.firstOutside? (machine.references (.input target)) = some number) :
    machine.reference? 0 target.toMode = some number := by
  have waits : machine.channel.input ≠ [] := by simp [pending]
  simp only [references, if_neg waits] at first
  cases target with
  | position =>
      have same := List.mem_singleton.1 (List.mem_of_find?_eq_some first)
      rw [same]
      rfl
  | relative =>
      have same := List.mem_singleton.1 (List.mem_of_find?_eq_some first)
      rw [same]
      rfl

/-- The turn of a running machine at an input instruction takes the first value of the input. -/
theorem takesFirst_of_pending
    {machine : Machine} {target : TargetMode} {value : Int} {rest : List Int}
    (started : machine.phase = .running) (fetched : machine.fetch = .ok (.input target))
    (pending : machine.channel.input = value :: rest) :
    TakesFirst machine target value rest machine.turn := by
  have turns := turnsTo_turn started
  generalize machine.turn = progress at turns
  cases turns with
  | undecodable unfetched =>
      rw [unfetched] at fetched
      cases fetched
  | missed fetched' named spends =>
      obtain rfl := Except.ok.inj (fetched'.symm.trans fetched)
      obtain ⟨number, rfl, first⟩ := named
      have outside := Address.isOutside_iff.1 (Address.isOutside_of_first first)
      have reference := reference_of_first pending first
      cases spends with
      | input pending' =>
          rw [pending] at pending'
          cases pending'
          exact .missed reference outside
      | other other => cases other
  | advanced fetched' effect inside =>
      obtain rfl := Except.ok.inj (fetched'.symm.trans fetched)
      cases effect with
      | input pending' found =>
          rw [pending] at pending'
          cases pending'
          exact .stored found inside
  | overran fetched' effect outside =>
      obtain rfl := Except.ok.inj (fetched'.symm.trans fetched)
      cases effect with
      | input pending' found =>
          rw [pending] at pending'
          cases pending'
          exact .overran found outside
  | jumped fetched' readValue holds readGoal found =>
      rw [fetched'] at fetched
      cases fetched
  | waited fetched' empty =>
      rw [empty] at pending
      cases pending
  | halted fetched' =>
      rw [fetched'] at fetched
      cases fetched

/--
Suspension points are exact.  After any calls, a blocked machine stands at an input instruction and
a halted one at a halt.  A run that blocks has used up the input.  A machine that is blocked without
input answers every further run that it is blocked, and stays as it is.  When a machine is blocked
with input, the first turn of its next run takes the first value: it stores it at the target of the
instruction and goes on two cells further, or faults over an address.
-/
theorem suspension_points
    {machine : Machine} {calls : List (Call × Reply)} {events : List Channel.Event}
    (history : History empty calls events machine) :
    (machine.phase = .blocked → ∃ target, machine.fetch = .ok (.input target)) ∧
      (machine.phase = .halted → machine.fetch = .ok .halt) ∧
      (∀ limit after, machine.run limit = some (.ok .blocked, after) →
        after.phase = .blocked ∧ after.channel.input = []) ∧
      (machine.phase = .blocked → machine.channel.input = [] →
        (∀ limit, machine.run (limit + 1) = some (.ok .blocked, machine)) ∧
          ∀ later laterEvents after, History machine later laterEvents after →
            (∀ entry ∈ later, entry.1 = .run) →
              after = machine ∧ ∀ entry ∈ later, entry.2 = .phase (.ok .blocked)) ∧
      ∀ value rest, machine.phase = .blocked → machine.channel.input = value :: rest →
        ∃ target, machine.fetch = .ok (.input target) ∧
          TakesFirst machine.resume target value rest machine.resume.turn := by
  have stands := history.standsAt
  refine ⟨stands.input, stands.halt, ?_, ?_, ?_⟩
  · intro limit after ran
    rcases run_eq_some ran with ⟨-, refused, -⟩ | ⟨live, returns⟩
    · cases refused
    · exact of_returns_blocked live returns
  · intro blocked empty
    obtain ⟨target, fetched⟩ := stands.input blocked
    refine ⟨run_of_starved blocked fetched empty, ?_⟩
    intro later laterEvents after further runs
    exact further.of_starved blocked fetched empty runs
  · intro value rest blocked pending
    obtain ⟨target, fetched⟩ := stands.input blocked
    have started : machine.resume.phase = .running := rfl
    exact ⟨target, fetched, takesFirst_of_pending started fetched pending⟩

/-- A program that waits for a value stays as it is when it is run again, and takes the value when
there is one. -/
theorem suspension_points_increment :
    ∃ calls events machine, History empty calls events machine ∧ machine.phase = .blocked ∧
      (∀ limit, machine.run (limit + 1) = some (.ok .blocked, machine)) ∧
      ∃ target fed, machine.enqueue 41 = (.ok (), fed) ∧
        TakesFirst fed.resume target 41 [] fed.resume.turn := by
  have waits : ∃ calls events,
      empty.answers? [(0, .start ⟨[3, 9, 1001, 9, 1, 9, 4, 9, 99, 0]⟩), (1, .run)] =
        some (calls, events, { increment with phase := .blocked }) :=
    ⟨_, _, by rfl⟩
  have accepts : ∃ calls events,
      empty.answers?
          [(0, .start ⟨[3, 9, 1001, 9, 1, 9, 4, 9, 99, 0]⟩), (1, .run), (0, .enqueue 41)] =
        some (calls, events, ({ increment with phase := .blocked } : Machine).feed [41]) :=
    ⟨_, _, by rfl⟩
  obtain ⟨calls, events, answered⟩ := waits
  obtain ⟨callsFed, eventsFed, answeredFed⟩ := accepts
  have history := history_of_answers answered
  have historyFed := history_of_answers answeredFed
  obtain ⟨-, -, -, starved, -⟩ := suspension_points history
  obtain ⟨-, -, -, -, takes⟩ := suspension_points historyFed
  obtain ⟨target, -, first⟩ := takes 41 [] rfl rfl
  exact ⟨calls, events, _, history, rfl, (starved rfl rfl).1, target, _, rfl, first⟩

end Machine

end Intcode
