import Intcode.Proofs.Machine.Trade

/-!
# Input in chunks

A machine that waits has lost nothing: with more input it goes on as if all of the input had been
there from the start.  A machine that has ended its run never looked at the input that is left.  So
it makes no difference in which chunks the input is delivered.
-/

namespace Intcode

namespace Channel

theorem Exchange.withRest
    {taken emitted : List Int} {before after : Channel}
    (exchange : Exchange taken emitted before after) (rest : List Int) :
    Exchange taken emitted { before with input := taken ++ rest } { after with input := rest } :=
  ⟨rfl, exchange.output, exchange.listeners, exchange.heard⟩

end Channel

namespace Machine

def withInput (machine : Machine) (values : List Int) : Machine :=
  machine.withChannel { machine.channel with input := values }

def feed (machine : Machine) (values : List Int) : Machine :=
  (machine.enqueueAll values).2

@[simp] theorem input_withInput (machine : Machine) (values : List Int) :
    (machine.withInput values).channel.input = values :=
  rfl

@[simp] theorem withInput_withInput (machine : Machine) (first second : List Int) :
    (machine.withInput first).withInput second = machine.withInput second :=
  rfl

theorem isStopped_of_live
    {machine : Machine} (live : machine.phase = .ready ∨ machine.phase = .blocked) :
    machine.phase.isStopped = false := by
  rcases live with ready | blocked
  · rw [ready]
    rfl
  · rw [blocked]
    rfl

theorem ne_faulted_of_live {machine : Machine} (live : machine.phase.isStopped = false) :
    machine.phase ≠ .faulted := by
  intro faulted
  rw [faulted] at live
  cases live

theorem enqueueAll_of_live
    {machine : Machine} (live : machine.phase.isStopped = false) (values : List Int) :
    machine.enqueueAll values = (.ok (), machine.feed values) := by
  unfold feed
  rw [enqueueAll_of_not_faulted (ne_faulted_of_live live)]

/-- The values that a live machine is fed stand behind its input. -/
theorem feed_of_live
    {machine : Machine} (live : machine.phase.isStopped = false) (values : List Int) :
    machine.feed values = machine.withInput (machine.channel.input ++ values) := by
  unfold feed
  rw [enqueueAll_of_not_faulted (ne_faulted_of_live live)]
  rfl

theorem feed_feed
    {machine : Machine} (live : machine.phase.isStopped = false) (first second : List Int) :
    (machine.feed first).feed second = machine.feed (first ++ second) := by
  have fed : ((machine.withInput (machine.channel.input ++ first)).phase).isStopped = false := live
  rw [feed_of_live live, feed_of_live fed, feed_of_live live, input_withInput,
    withInput_withInput, List.append_assoc]

theorem isStopped_feed
    {machine : Machine} (live : machine.phase.isStopped = false) (values : List Int) :
    (machine.feed values).phase.isStopped = false := by
  rw [feed_of_live live]
  exact live

/--
What a run trades: a run on one channel is a run on every channel that starts with the same input
values, with the same result.  A run that waits has used up its input.
-/
theorem Returns.frame
    {machine after : Machine} {result : Except Fault Phase}
    (live : machine.phase.isStopped = false) (returns : machine.Returns result after) :
    ∃ taken emitted,
      Channel.Exchange taken emitted machine.channel after.channel ∧
        (result = .ok .blocked → after.channel.input = []) ∧
        ∀ before channel, Channel.Exchange taken emitted before channel →
          (result = .ok .blocked → channel.input = []) →
          (machine.withChannel before).Returns result (after.withChannel channel) := by
  obtain ⟨count, stopped⟩ := (returns_iff live).1 returns
  have started : machine.resume.phase = .running := rfl
  obtain ⟨taken, emitted, exchange, starved, frame⟩ := progress_trades started count
  rw [stopped] at exchange starved frame
  simp only [Progress.waits_stopped_iff] at starved frame
  refine ⟨taken, emitted, exchange, starved, ?_⟩
  intro before channel exchanged empty
  have live' : (machine.withChannel before).phase.isStopped = false := live
  exact (returns_iff live').2 ⟨count, frame exchanged empty⟩

/-- A running machine that waits after a turn is as it was, but for its phase. -/
theorem eq_of_turn_waits
    {machine last : Machine} (started : machine.phase = .running)
    (turned : machine.turn = .stopped (.ok .blocked) last) :
    last = { machine with phase := .blocked } ∧ machine.channel.input = [] := by
  cases fetched : machine.fetch with
  | error fault =>
      rw [turn_of_fetch_error fetched] at turned
      cases turned
  | ok instruction =>
      rw [turn_of_fetch started fetched] at turned
      have blocks : (machine.execute instruction).1 = .ok .block := by
        apply waits_settle_iff.1
        rw [turned]
        trivial
      obtain ⟨⟨target, rfl⟩, empty⟩ := execute_eq_block_iff.1 blocks
      rw [execute_input_of_nil empty] at turned
      cases turned
      exact ⟨rfl, empty⟩

/-- A loop that waits was going on, one turn before, from the machine that it waits with. -/
theorem progress_of_waits
    {machine last : Machine} {count : Nat} (started : machine.phase = .running)
    (stopped : machine.progress count = .stopped (.ok .blocked) last) :
    ∃ used, machine.progress used = .running last.resume ∧ last.phase = .blocked ∧
      last.channel.input = [] := by
  induction count generalizing machine with
  | zero => cases stopped
  | succ count ih =>
      cases turned : machine.turn with
      | running next =>
          rw [progress_of_turn_running turned] at stopped
          obtain ⟨used, reached⟩ := ih (phase_of_turn_running turned) stopped
          refine ⟨used + 1, ?_⟩
          rw [progress_of_turn_running turned]
          exact reached
      | stopped result final =>
          rw [progress_of_turn_stopped turned] at stopped
          cases stopped
          obtain ⟨rfl, empty⟩ := eq_of_turn_waits started turned
          have same : ({ machine with phase := .blocked } : Machine).resume = machine := by
            unfold resume
            rw [← started]
          refine ⟨0, ?_, rfl, empty⟩
          rw [same]
          rfl

/-- A machine that waits goes on with more input as if it had been there from the start. -/
theorem returns_withInput_iff_of_blocked
    {machine middle : Machine} (live : machine.phase.isStopped = false)
    (blocked : machine.Returns (.ok .blocked) middle) (more : List Int)
    (result : Except Fault Phase) (last : Machine) :
    (middle.withInput more).Returns result last ↔
      (machine.withInput (machine.channel.input ++ more)).Returns result last := by
  have started : machine.resume.phase = .running := rfl
  obtain ⟨count, stopped⟩ := (returns_iff live).1 blocked
  obtain ⟨used, reached, waiting, empty⟩ := progress_of_waits started stopped
  obtain ⟨taken, emitted, trades⟩ := progress_trades started used
  -- The values used up by the run are all that its input held.
  have exchange := trades.exchange
  rw [reached] at exchange
  have whole : machine.channel.input = taken := by
    simpa [Progress.reached, resume, empty] using exchange.input
  have going : (machine.withInput (machine.channel.input ++ more)).resume.progress used =
      .running (middle.withInput more).resume := by
    have framed := trades.frame (exchange.withRest more) (by
      rw [reached]
      exact nofun)
    rw [reached, ← whole] at framed
    exact framed
  have liveMiddle : (middle.withInput more).phase.isStopped = false := by
    simp [withInput, waiting, Phase.isStopped]
  have liveWhole : (machine.withInput (machine.channel.input ++ more)).phase.isStopped = false :=
    live
  rw [returns_iff liveMiddle, returns_iff liveWhole]
  constructor
  · rintro ⟨further, ended⟩
    refine ⟨used + further, ?_⟩
    rw [progress_add, going]
    exact ended
  · rintro ⟨further, ended⟩
    refine ⟨further, ?_⟩
    have later : (machine.withInput (machine.channel.input ++ more)).resume.progress
        (further + used) = .stopped result last := by
      rw [progress_add, ended]
      rfl
    rw [Nat.add_comm, progress_add, going] at later
    exact later

/-- A run that ends leaves the rest of its input unread: another rest makes no difference. -/
theorem returns_withInput_of_ended
    {machine last : Machine} {result : Except Fault Phase}
    (live : machine.phase.isStopped = false) (returns : machine.Returns result last)
    (ended : result ≠ .ok .blocked) :
    ∃ taken, machine.channel.input = taken ++ last.channel.input ∧
      ∀ other, (machine.withInput (taken ++ other)).Returns result (last.withInput other) := by
  obtain ⟨taken, emitted, exchange, -, frame⟩ := returns.frame live
  refine ⟨taken, exchange.input, fun other => ?_⟩
  exact frame _ _ (exchange.withRest other) fun blocked => absurd blocked ended

theorem returns_of_feed
    {machine last : Machine} {result : Except Fault Phase} {more : List Int}
    (live : machine.phase.isStopped = false) (returns : (machine.feed more).Returns result last) :
    ∃ outcome middle, machine.Returns outcome middle := by
  have started : machine.resume.phase = .running := rfl
  obtain ⟨count, ended⟩ := (returns_iff (isStopped_feed live more)).1 returns
  rw [feed_of_live live] at ended
  cases progressed : machine.resume.progress count with
  | stopped outcome middle => exact ⟨outcome, middle, (returns_iff live).2 ⟨count, progressed⟩⟩
  | running current =>
      -- Going on without the further input would be going on with it.
      obtain ⟨taken, emitted, trades⟩ := progress_trades started count
      have exchange := trades.exchange
      have framed := trades.frame (exchange.withRest (current.channel.input ++ more)) (by
        rw [progressed]
        exact nofun)
      rw [progressed] at exchange framed
      have input : machine.channel.input = taken ++ current.channel.input := exchange.input
      rw [← List.append_assoc, ← input] at framed
      have going : (machine.withInput (machine.channel.input ++ more)).resume.progress count =
        .running _ := framed
      rw [ended] at going
      cases going

theorem of_returns_blocked
    {machine middle : Machine} (live : machine.phase.isStopped = false)
    (blocked : machine.Returns (.ok .blocked) middle) :
    middle.phase = .blocked ∧ middle.channel.input = [] := by
  have started : machine.resume.phase = .running := rfl
  obtain ⟨count, stopped⟩ := (returns_iff live).1 blocked
  obtain ⟨used, -, waiting, empty⟩ := progress_of_waits started stopped
  exact ⟨waiting, empty⟩

theorem isStopped_of_returns_blocked
    {machine middle : Machine} (live : machine.phase.isStopped = false)
    (blocked : machine.Returns (.ok .blocked) middle) : middle.phase.isStopped = false :=
  congrArg Phase.isStopped (of_returns_blocked live blocked).1

/-- Feeding a machine while it waits is feeding it before it runs. -/
theorem returns_feed_iff_of_blocked
    {machine middle : Machine} (live : machine.phase.isStopped = false)
    (blocked : machine.Returns (.ok .blocked) middle) (more : List Int)
    (result : Except Fault Phase) (last : Machine) :
    (middle.feed more).Returns result last ↔ (machine.feed more).Returns result last := by
  obtain ⟨-, empty⟩ := of_returns_blocked live blocked
  have waits := isStopped_of_returns_blocked live blocked
  rw [feed_of_live waits, feed_of_live live, empty, List.nil_append]
  exact returns_withInput_iff_of_blocked live blocked more result last

/-- Values that a run does not get to before it ends are left pending. -/
theorem returns_feed_of_ended
    {machine last : Machine} {result : Except Fault Phase}
    (live : machine.phase.isStopped = false) (returns : machine.Returns result last)
    (ended : result ≠ .ok .blocked) (more : List Int) :
    (machine.feed more).Returns result (last.withInput (last.channel.input ++ more)) := by
  obtain ⟨taken, input, unread⟩ := returns_withInput_of_ended live returns ended
  rw [feed_of_live live, input, List.append_assoc]
  exact unread (last.channel.input ++ more)

/--
Delivering chunks one after the other, with a run after each while the machine waits: the result of
the last run, the machine that it leaves, and the chunks that were left undelivered.
-/
inductive Delivers :
    Machine → List (List Int) → Except Fault Phase → Machine → List (List Int) → Prop where
  | last {machine after : Machine} {chunk : List Int} {result : Except Fault Phase}
      (returns : (machine.feed chunk).Returns result after) :
      Delivers machine [chunk] result after []
  | resume {machine middle after : Machine} {chunk : List Int} {chunks left : List (List Int)}
      {result : Except Fault Phase}
      (blocked : (machine.feed chunk).Returns (.ok .blocked) middle)
      (further : Delivers middle chunks result after left) :
      Delivers machine (chunk :: chunks) result after left
  | ended {machine after : Machine} {chunk : List Int} {chunks : List (List Int)}
      {result : Except Fault Phase}
      (returns : (machine.feed chunk).Returns result after) (ended : result ≠ .ok .blocked) :
      Delivers machine (chunk :: chunks) result after chunks

/-- What comes of delivering chunks comes of one run, with what was left undelivered pending. -/
theorem Delivers.returns
    {machine after : Machine} {chunks left : List (List Int)} {result : Except Fault Phase}
    (delivers : Delivers machine chunks result after left)
    (live : machine.phase.isStopped = false) :
    (machine.feed chunks.flatten).Returns result
      (after.withInput (after.channel.input ++ left.flatten)) := by
  induction delivers with
  | last returns =>
      simp only [List.flatten_cons, List.flatten_nil, List.append_nil]
      exact returns
  | @resume machine middle after chunk chunks left result blocked further ih =>
      have waits := isStopped_of_returns_blocked (isStopped_feed live chunk) blocked
      rw [List.flatten_cons, ← feed_feed live]
      exact (returns_feed_iff_of_blocked (isStopped_feed live chunk) blocked _ _ _).1 (ih waits)
  | @ended machine after chunk chunks result returns ended =>
      rw [List.flatten_cons, ← feed_feed live]
      exact returns_feed_of_ended (isStopped_feed live chunk) returns ended chunks.flatten

/-- When one run on all of the input returns, so does each run of a delivery in chunks. -/
theorem exists_delivers
    {machine last : Machine} {chunks : List (List Int)} {result : Except Fault Phase}
    (live : machine.phase.isStopped = false) (nonempty : chunks ≠ [])
    (returns : (machine.feed chunks.flatten).Returns result last) :
    ∃ outcome after left, Delivers machine chunks outcome after left := by
  induction chunks generalizing machine with
  | nil => contradiction
  | cons chunk rest ih =>
      have fed := isStopped_feed live chunk
      rw [List.flatten_cons, ← feed_feed live] at returns
      obtain ⟨outcome, middle, first⟩ := returns_of_feed fed returns
      by_cases blocked : outcome = .ok .blocked
      · subst blocked
        cases rest with
        | nil => exact ⟨_, middle, [], .last first⟩
        | cons next rest =>
            have waits := isStopped_of_returns_blocked fed first
            have resumed := (returns_feed_iff_of_blocked fed first _ _ _).2 returns
            obtain ⟨final, after, left, further⟩ := ih waits (by simp) resumed
            exact ⟨final, after, left, .resume first further⟩
      · exact ⟨outcome, middle, rest, .ended first blocked⟩

/-- One run on all of the input is a delivery in chunks. -/
theorem returns_flatten_iff
    {machine : Machine} (live : machine.phase.isStopped = false) {chunks : List (List Int)}
    (nonempty : chunks ≠ []) (result : Except Fault Phase) (last : Machine) :
    (machine.feed chunks.flatten).Returns result last ↔
      ∃ after left, Delivers machine chunks result after left ∧
        last = after.withInput (after.channel.input ++ left.flatten) := by
  constructor
  · intro returns
    obtain ⟨outcome, after, left, delivers⟩ := exists_delivers live nonempty returns
    obtain ⟨rfl, rfl⟩ := returns.unique (delivers.returns live)
    exact ⟨after, left, delivers, rfl⟩
  · rintro ⟨after, left, delivers, rfl⟩
    exact delivers.returns live

/--
Input may be delivered in any chunks.  A machine that waits goes on with further input as if it had
had it from the start; a run that ends leaves further input pending; what it leaves pending never
mattered to it; and so a delivery in chunks, with a run after each, comes to what one run on all of
the input comes to.
-/
theorem chunked_input
    {machine : Machine} (live : machine.phase = .ready ∨ machine.phase = .blocked) :
    (∀ values, machine.enqueueAll values = (.ok (), machine.feed values)) ∧
    (∀ first second middle, (machine.feed first).Returns (.ok .blocked) middle →
      ∀ result last, (middle.feed second).Returns result last ↔
        (machine.feed (first ++ second)).Returns result last) ∧
    (∀ first second result last, result ≠ .ok .blocked →
      (machine.feed first).Returns result last →
        (machine.feed (first ++ second)).Returns result
          (last.withInput (last.channel.input ++ second))) ∧
    (∀ first result last, result ≠ .ok .blocked → (machine.feed first).Returns result last →
      ∃ taken, machine.channel.input ++ first = taken ++ last.channel.input ∧
        ∀ other, (machine.withInput (taken ++ other)).Returns result (last.withInput other)) ∧
    ∀ chunks, chunks ≠ [] → ∀ result last,
      (machine.feed chunks.flatten).Returns result last ↔
        ∃ after left, Delivers machine chunks result after left ∧
          last = after.withInput (after.channel.input ++ left.flatten) := by
  have unstopped : machine.phase.isStopped = false := isStopped_of_live live
  refine ⟨enqueueAll_of_live unstopped, ?_, ?_, ?_, ?_⟩
  · intro first second middle blocked result last
    rw [← feed_feed unstopped]
    exact returns_feed_iff_of_blocked (isStopped_feed unstopped first) blocked second result last
  · intro first second result last ended returns
    rw [← feed_feed unstopped]
    exact returns_feed_of_ended (isStopped_feed unstopped first) returns ended second
  · intro first result last ended returns
    have fed := isStopped_feed unstopped first
    obtain ⟨taken, input, unread⟩ := returns_withInput_of_ended fed returns ended
    rw [feed_of_live unstopped] at input unread
    exact ⟨taken, input, unread⟩
  · intro chunks nonempty result last
    exact returns_flatten_iff unstopped nonempty result last

def increment : Machine :=
  empty.start ⟨[3, 9, 1001, 9, 1, 9, 4, 9, 99, 0]⟩

/-- The program waits for a value, and goes on when it is fed two. -/
theorem chunked_input_increment :
    (increment.phase = .ready ∨ increment.phase = .blocked) ∧
      (increment.feed []).Returns (.ok .blocked) { increment with phase := .blocked } ∧
        ∃ last, (increment.feed [41, 7]).Returns (.ok .halted) last ∧
          last.channel.output = #[42] ∧ last.channel.input = [7] := by
  have live : increment.phase = .ready ∨ increment.phase = .blocked := .inl rfl
  have waits : (increment.feed []).Returns (.ok .blocked) { increment with phase := .blocked } :=
    ⟨1, by rfl⟩
  have resumed : ∃ last,
      (({ increment with phase := .blocked } : Machine).feed [41, 7]).Returns (.ok .halted) last ∧
        last.channel.output = #[42] ∧ last.channel.input = [7] :=
    ⟨_, ⟨4, by rfl⟩, by rfl, by rfl⟩
  obtain ⟨last, returns, shown⟩ := resumed
  exact ⟨live, waits, last,
    ((chunked_input live).2.1 [] [41, 7] _ waits (.ok .halted) last).1 returns, shown⟩

end Machine

end Intcode
