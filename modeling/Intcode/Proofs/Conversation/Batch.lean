import Intcode.Proofs.Conversation.Rounds
import Intcode.Proofs.Transcript.Lines

/-!
# Conversations and batch runs

A conversation runs a machine many times, with a drain and a line of input between two runs.  A
batch run sends all lines first and runs the machine once.  Both come to the same: what the batch
run puts out at once, the conversation puts out piece by piece, and lines that it never read stay
behind its input.
-/

namespace Intcode

/-! ## Sessions -/

namespace Machine

/--
A session of a machine on lines: the transcripts of its runs, the outcome of the last one, the
machine that it leaves, and the lines that were not read.
-/
inductive Session : Machine → List String → List Transcript → Except Fault Phase → Machine →
    List String → Prop where
  /-- A run faults. -/
  | faulted {machine after : Machine} {fault : Fault} {lines : List String}
      (returns : machine.Returns (.error fault) after) :
      Session machine lines [] (.error fault) after lines
  /-- The program halts. -/
  | halted {machine after : Machine} {lines : List String}
      (returns : machine.Returns (.ok .halted) after) :
      Session machine lines [⟨after.drain.1, .halted⟩] (.ok .halted) after.drain.2 lines
  /-- The program waits, and no line is left. -/
  | exhausted {machine after : Machine} (returns : machine.Returns (.ok .blocked) after) :
      Session machine [] [⟨after.drain.1, .blocked⟩] (.ok .blocked) after.drain.2 []
  /-- The program waits, and is sent a line. -/
  | line {machine middle after : Machine} {line : String} {lines left : List String}
      {transcripts : List Transcript} {outcome : Except Fault Phase}
      (returns : machine.Returns (.ok .blocked) middle)
      (further :
        Session (middle.drain.2.sendLine line).2 lines transcripts outcome after left) :
      Session machine (line :: lines) (⟨middle.drain.1, .blocked⟩ :: transcripts) outcome after left

theorem sendLines_eq_feed
    {machine : Machine} (live : machine.phase.isStopped = false) (lines : List String) :
    machine.sendLines lines = machine.feed (lines.flatMap lineCodes) := by
  have sound := ne_faulted_of_live live
  rw [feed, enqueueAll_of_not_faulted sound, sendLines_of_not_faulted sound]

theorem Session.suffix
    {machine after : Machine} {lines left : List String} {transcripts : List Transcript}
    {outcome : Except Fault Phase}
    (session : Session machine lines transcripts outcome after left) :
    ∃ read, lines = read ++ left := by
  induction session with
  | faulted returns => exact ⟨[], rfl⟩
  | halted returns => exact ⟨[], rfl⟩
  | exhausted returns => exact ⟨[], rfl⟩
  | @line machine middle after line lines left transcripts outcome returns further ih =>
      obtain ⟨read, rfl⟩ := ih
      exact ⟨line :: read, rfl⟩

/--
A conversation comes to a result when it is a session with that result, of which it showed all
transcripts on top of what was shown before.
-/
def ComesTo {σ : Type} (stands : List String → List String → σ → Prop) (prompt : String)
    (machine : Machine) (lines shown : List String) (result : Except Interruption Phase)
    (after : Machine) (last : σ) : Prop :=
  ∃ transcripts outcome left, Session machine lines transcripts outcome after left ∧
    result = outcome.mapError .machine ∧
    stands left (shown ++ transcripts.flatMap (·.display prompt)) last

section Conversations

variable {σ : Type} {console : Console (StateM σ)} {stands : List String → List String → σ → Prop}
  {prompt : String} {limit : Nat} {machine after : Machine} {result : Except Interruption Phase}
  {lines shown : List String} {state last : σ}

/-- One round is the last one, or sends a line and leaves the rest to further rounds. -/
theorem comesTo_or_sends
    (reliable : console.Reliable stands) {rounds : Nat} (live : machine.phase.isStopped = false)
    (standing : stands lines shown state)
    (returned : (machine.converse console prompt limit (rounds + 1)).run state =
      (some (result, after), last)) :
    ComesTo stands prompt machine lines shown result after last ∨
      ∃ line rest middle next, lines = line :: rest ∧ machine.Returns (.ok .blocked) middle ∧
        stands rest (shown ++ Transcript.display ⟨middle.drain.1, .blocked⟩ prompt) next ∧
        ((middle.drain.2.sendLine line).2.converse console prompt limit rounds).run next =
          (some (result, after), last) := by
  rcases ran : machine.run limit with _ | ⟨fault | phase, stopped⟩
  · rw [converse_of_unreturned ran] at returned
    cases returned
  · rw [converse_of_faulted ran] at returned
    cases returned
    refine .inl ⟨[], .error fault, lines, .faulted ⟨limit, ran⟩, rfl, ?_⟩
    rw [List.flatMap_nil, List.append_nil]
    exact standing
  · obtain ⟨kept, phases⟩ := Returns.phase live ⟨limit, ran⟩
    obtain ⟨next, wrote, standing'⟩ := reliable.writeAll standing
      (Transcript.display ⟨stopped.drain.1, phase⟩ prompt)
    rcases phases with rfl | rfl
    · cases lines with
      | nil =>
          obtain ⟨final, ended, standingLast⟩ := reliable.readLine_nil standing'
          rw [converse_of_exhausted ran wrote ended] at returned
          cases returned
          refine .inl ⟨_, .ok .blocked, [], .exhausted ⟨limit, ran⟩, rfl, ?_⟩
          rw [List.flatMap_singleton]
          exact standingLast
      | cons line rest =>
          obtain ⟨final, read, standingNext⟩ := reliable.readLine_cons standing'
          rw [converse_of_line ran wrote read kept] at returned
          exact .inr ⟨line, rest, stopped, final, rfl, ⟨limit, ran⟩, standingNext, returned⟩
    · rw [converse_of_halted ran wrote] at returned
      cases returned
      refine .inl ⟨_, .ok .halted, lines, .halted ⟨limit, ran⟩, rfl, ?_⟩
      rw [List.flatMap_singleton]
      exact standing'

/-- A conversation on a reliable console is a session, of which it shows all transcripts. -/
theorem comesTo_of_converse
    (reliable : console.Reliable stands) {rounds : Nat} (live : machine.phase.isStopped = false)
    (standing : stands lines shown state)
    (returned :
      (machine.converse console prompt limit rounds).run state = (some (result, after), last)) :
    ComesTo stands prompt machine lines shown result after last := by
  induction rounds generalizing machine lines shown state with
  | zero => cases returned
  | succ rounds ih =>
      rcases comesTo_or_sends reliable live standing returned with
        comes | ⟨line, rest, middle, next, rfl, blocked, standing', further⟩
      · exact comes
      · have waits := isStopped_of_returns_blocked live blocked
        have drained : middle.drain.2.phase.isStopped = false := waits
        obtain ⟨transcripts, outcome, left, session, same, standingLast⟩ :=
          ih (isStopped_sendLine drained line) standing' further
        refine ⟨_, outcome, left, .line blocked session, same, ?_⟩
        rw [List.flatMap_cons, ← List.append_assoc]
        exact standingLast

end Conversations

/-! ## Batch runs -/

def prependOutput (machine : Machine) (earlier : List Int) : Machine :=
  machine.withChannel
    { machine.channel with output := earlier.toArray ++ machine.channel.output }

@[simp] theorem prependOutput_nil (machine : Machine) : machine.prependOutput [] = machine := by
  simp [prependOutput, withChannel]

theorem prependOutput_prependOutput (machine : Machine) (first second : List Int) :
    (machine.prependOutput first).prependOutput second =
      machine.prependOutput (second ++ first) := by
  simp [prependOutput, ← List.append_toArray, Array.append_assoc]

@[simp] theorem drain_prependOutput (machine : Machine) :
    machine.drain.2.prependOutput machine.drain.1 = machine := by
  simp [prependOutput, drain, Channel.drain, withChannel]

theorem feed_prependOutput
    {machine : Machine} (live : machine.phase.isStopped = false) (earlier values : List Int) :
    (machine.prependOutput earlier).feed values = (machine.feed values).prependOutput earlier := by
  have live' : (machine.prependOutput earlier).phase.isStopped = false := live
  rw [feed_of_live live, feed_of_live live']
  rfl

/-- A run leaves the output before it in front of its own. -/
theorem Returns.prependOutput
    {machine after : Machine} {result : Except Fault Phase}
    (live : machine.phase.isStopped = false) (returns : machine.Returns result after)
    (earlier : List Int) :
    (machine.prependOutput earlier).Returns result (after.prependOutput earlier) := by
  obtain ⟨taken, emitted, exchange, starved, frame⟩ := returns.frame live
  refine frame _ _ ⟨exchange.input, ?_, exchange.listeners, exchange.heard⟩ starved
  simp [exchange.output]

theorem Session.output_eq_empty
    {machine after : Machine} {lines left : List String} {transcripts : List Transcript}
    {outcome : Except Fault Phase} {phase : Phase}
    (session : Session machine lines transcripts outcome after left)
    (sound : outcome = .ok phase) : after.channel.output = #[] := by
  induction session with
  | faulted returns => cases sound
  | halted returns => rfl
  | exhausted returns => rfl
  | line returns further ih => exact ih sound

/--
One run on all lines of a session comes to what the session comes to: it puts out what the session
put out in pieces, and the lines that the session did not read are left behind the input.
-/
theorem Session.returns
    {machine after : Machine} {lines left : List String} {transcripts : List Transcript}
    {outcome : Except Fault Phase}
    (session : Session machine lines transcripts outcome after left)
    (live : machine.phase.isStopped = false) :
    (machine.sendLines lines).Returns outcome
      ((after.withInput (after.channel.input ++ left.flatMap lineCodes)).prependOutput
        (transcripts.flatMap (·.codes))) := by
  induction session with
  | @faulted machine after fault lines returns =>
      rw [sendLines_eq_feed live, List.flatMap_nil, prependOutput_nil]
      exact returns_feed_of_ended live returns nofun (lines.flatMap lineCodes)
  | @halted machine after lines returns =>
      have whole := returns_feed_of_ended live returns nofun (lines.flatMap lineCodes)
      rw [← after.drain_prependOutput] at whole
      rw [sendLines_eq_feed live, List.flatMap_singleton]
      exact whole
  | @exhausted machine after returns =>
      rw [List.flatMap_singleton, List.flatMap_nil, List.append_nil]
      change machine.Returns _ (after.drain.2.prependOutput after.drain.1)
      rw [drain_prependOutput]
      exact returns
  | @line machine middle after line lines left transcripts outcome returns further ih =>
      have waits := isStopped_of_returns_blocked live returns
      have drained : middle.drain.2.phase.isStopped = false := waits
      have sent : middle.drain.2.sendLines (line :: lines) =
          middle.drain.2.feed ((line :: lines).flatMap lineCodes) :=
        sendLines_eq_feed drained (line :: lines)
      have rest : (middle.drain.2.sendLines (line :: lines)).Returns outcome _ :=
        ih (isStopped_sendLine drained line)
      rw [sent] at rest
      have undrained := rest.prependOutput (isStopped_feed drained _) middle.drain.1
      rw [← feed_prependOutput drained, drain_prependOutput, prependOutput_prependOutput]
        at undrained
      rw [sendLines_eq_feed live, List.flatMap_cons]
      exact (returns_feed_iff_of_blocked live returns _ _ _).1 undrained

/--
A machine ends as another does that left lines unread: with these lines behind its input, and with
everything else but the output the same.
-/
structure EndsWith (batch after : Machine) (left : List String) : Prop where
  memory : batch.memory = after.memory
  ip : batch.ip = after.ip
  base : batch.base = after.base
  phase : batch.phase = after.phase
  input : batch.channel.input = after.channel.input ++ left.flatMap lineCodes
  listeners : batch.channel.listeners = after.channel.listeners
  heard : batch.channel.heard = after.channel.heard

theorem endsWith_prependOutput (after : Machine) (left : List String) (earlier : List Int) :
    EndsWith
      ((after.withInput (after.channel.input ++ left.flatMap lineCodes)).prependOutput earlier)
      after left :=
  ⟨rfl, rfl, rfl, rfl, rfl, rfl, rfl⟩

theorem EndsWith.drain
    {batch after : Machine} {left : List String} (ends : EndsWith batch after left) :
    EndsWith batch.drain.2 after left :=
  ⟨ends.memory, ends.ip, ends.base, ends.phase, ends.input, ends.listeners, ends.heard⟩

theorem Returns.runText_ok
    {machine after : Machine} {phase : Phase} (returns : machine.Returns (.ok phase) after) :
    ∃ limit, machine.runText limit =
      some (.ok ⟨after.channel.output.toList, phase⟩, after.drain.2) := by
  obtain ⟨limit, ran⟩ := returns
  refine ⟨limit, ?_⟩
  rw [runText, ran]
  rfl

theorem Returns.runText_error
    {machine after : Machine} {fault : Fault} (returns : machine.Returns (.error fault) after) :
    ∃ limit, machine.runText limit = some (.error fault, after) := by
  obtain ⟨limit, ran⟩ := returns
  refine ⟨limit, ?_⟩
  rw [runText, ran]
  rfl

/--
A conversation agrees with the batch run on all lines.  A conversation that comes to its end on a
reliable console is a session that showed its transcripts and read the lines up to those left.  The
batch run comes to the same phase or fault, and ends with the machine that the conversation ends
with and the lines left behind its input.  Its codes, and so its text and answers, are those of the
transcripts in order; after a fault the codes of the last run follow them in the output.
-/
theorem conversation_agrees_with_batch
    {σ : Type} {console : Console (StateM σ)} {stands : List String → List String → σ → Prop}
    {prompt : String} {limit rounds : Nat} {machine after : Machine}
    {result : Except Interruption Phase} {lines shown : List String} {state last : σ}
    (live : machine.phase = .ready ∨ machine.phase = .blocked)
    (reliable : console.Reliable stands) (standing : stands lines shown state)
    (returned :
      (machine.converse console prompt limit rounds).run state = (some (result, after), last)) :
    ∃ transcripts outcome read left batchLimit batch,
      Session machine lines transcripts outcome after left ∧
        result = outcome.mapError .machine ∧ lines = read ++ left ∧
        stands left (shown ++ transcripts.flatMap (·.display prompt)) last ∧
        EndsWith batch after left ∧
        match outcome with
        | .ok phase =>
            ∃ transcript : Transcript,
              (machine.sendLines lines).runText batchLimit = some (.ok transcript, batch) ∧
                transcript.phase = phase ∧
                transcript.codes = transcripts.flatMap (·.codes) ∧
                transcript.text = String.join (transcripts.map (·.text)) ∧
                transcript.answers = transcripts.flatMap (·.answers)
        | .error fault =>
            (machine.sendLines lines).runText batchLimit = some (.error fault, batch) ∧
              batch.channel.output.toList =
                transcripts.flatMap (·.codes) ++ after.channel.output.toList := by
  have unstopped := isStopped_of_live live
  obtain ⟨transcripts, outcome, left, session, same, standingLast⟩ :=
    comesTo_of_converse reliable unstopped standing returned
  obtain ⟨read, split⟩ := session.suffix
  have whole := session.returns unstopped
  cases outcome with
  | error fault =>
      obtain ⟨batchLimit, ran⟩ := whole.runText_error
      refine ⟨transcripts, .error fault, read, left, batchLimit, _, session, same, split,
        standingLast, endsWith_prependOutput after left _, ran, ?_⟩
      simp [prependOutput, withInput]
  | ok phase =>
      have drained := session.output_eq_empty rfl
      obtain ⟨batchLimit, ran⟩ := whole.runText_ok
      have codes : ((after.withInput (after.channel.input ++ left.flatMap lineCodes)).prependOutput
          (transcripts.flatMap (·.codes))).channel.output.toList =
          transcripts.flatMap (·.codes) := by
        simp [prependOutput, withInput, drained]
      rw [codes] at ran
      have ends := endsWith_prependOutput after left (transcripts.flatMap (·.codes))
      exact ⟨transcripts, .ok phase, read, left, batchLimit, _, session, same, split, standingLast,
        ends.drain, _, ran, rfl, rfl, Transcript.text_flatMap transcripts phase,
        Transcript.answers_flatMap transcripts phase⟩

def echo : Machine :=
  empty.start ⟨[3, 7, 4, 7, 1105, 1, 0, 0]⟩

/-- The program is sent one line, says it again, and waits for the next in the end. -/
theorem conversation_agrees_with_batch_echo :
    ∃ after last,
      (echo.converse Script.console "?" 20 2).run (Script.ofLines ["hi"]) =
        (some (.ok .blocked, after), last) ∧
        last.shown = ["", "hi\n"] ∧
        ∃ left batchLimit transcript batch,
          (echo.sendLines ["hi"]).runText batchLimit = some (.ok transcript, batch) ∧
            transcript.phase = .blocked ∧ EndsWith batch after left := by
  have standing : Script.Stands ["hi"] [] (Script.ofLines ["hi"]) := ⟨rfl, rfl, rfl⟩
  have answered :
      ((echo.converse Script.console "?" 20 2).run (Script.ofLines ["hi"])).1.map (·.1.toOption) =
        some (some .blocked) := by
    decide +kernel
  have shown :
      ((echo.converse Script.console "?" 20 2).run (Script.ofLines ["hi"])).2.shown =
        ["", "hi\n"] := by
    decide +kernel
  generalize returned :
    (echo.converse Script.console "?" 20 2).run (Script.ofLines ["hi"]) = performed
    at answered shown
  obtain ⟨answer, last⟩ := performed
  obtain ⟨⟨result, after⟩, rfl, waits⟩ := Option.map_eq_some_iff.1 answered
  obtain ⟨transcripts, outcome, read, left, batchLimit, batch, session, rfl, split, standing, ends,
      whole⟩ :=
    conversation_agrees_with_batch (.inl rfl) Script.reliable standing returned
  cases outcome with
  | error fault => cases waits
  | ok phase =>
      cases waits
      obtain ⟨transcript, ran, phases, -⟩ := whole
      exact ⟨after, last, rfl, shown, left, batchLimit, transcript, batch, ran, phases, ends⟩

end Machine

end Intcode
