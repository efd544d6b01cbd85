import Intcode.Console.Script
import Intcode.Conversation
import Intcode.Proofs.Host.Actions
import Intcode.Proofs.Machine.Chunks

/-!
# Rounds of a conversation

In a round of a conversation the machine runs, what it put out is shown, and a line is read and
sent.  How a round ends is settled by how the run returns and by what the console answers; a console
that never fails leaves only the ends of the program and of the lines.
-/

namespace Intcode

/-! ## Consoles that do not fail -/

/--
A console is reliable when it takes every text, gives the lines that it holds in order, and then is
at its end.  How it stands is told by the lines still to give and the texts taken so far.
-/
structure Console.Reliable {σ : Type} (console : Console (StateM σ))
    (stands : List String → List String → σ → Prop) : Prop where
  write {lines shown : List String} {state : σ} (standing : stands lines shown state)
    (text : String) :
    ∃ next, (console.write text).run state = (.ok (), next) ∧ stands lines (shown ++ [text]) next
  readLine_nil {shown : List String} {state : σ} (standing : stands [] shown state) :
    ∃ next, console.readLine.run state = (.ok none, next) ∧ stands [] shown next
  readLine_cons {line : String} {lines shown : List String} {state : σ}
    (standing : stands (line :: lines) shown state) :
    ∃ next, console.readLine.run state = (.ok (some line), next) ∧ stands lines shown next

theorem Console.Reliable.writeAll
    {σ : Type} {console : Console (StateM σ)} {stands : List String → List String → σ → Prop}
    (reliable : console.Reliable stands) {lines shown : List String} {state : σ}
    (standing : stands lines shown state) (texts : List String) :
    ∃ next, (console.writeAll texts).run state = (.ok (), next) ∧
      stands lines (shown ++ texts) next := by
  induction texts generalizing shown state with
  | nil =>
      refine ⟨state, rfl, ?_⟩
      rw [List.append_nil]
      exact standing
  | cons text texts ih =>
      obtain ⟨middle, wrote, standing'⟩ := reliable.write standing text
      obtain ⟨next, wroteRest, standingLast⟩ := ih standing'
      refine ⟨next, ?_, ?_⟩
      · rw [Console.writeAll, StateT.run_bind, wrote]
        exact wroteRest
      · rw [List.append_assoc] at standingLast
        exact standingLast

namespace Script

def Stands (lines shown : List String) (script : Script) : Prop :=
  script.answers = lines.map (fun line => .ok (some line)) ∧ script.shown = shown ∧
    script.capacity = none

theorem reliable : Script.console.Reliable Stands where
  write := by
    rintro lines shown script ⟨answers, taken, unlimited⟩ text
    refine ⟨{ script with shown := script.shown ++ [text] }, ?_, answers, ?_, unlimited⟩
    · change script.take text = _
      simp [take, unlimited]
    · rw [taken]
  readLine_nil := by
    rintro shown script ⟨answers, taken, unlimited⟩
    refine ⟨script, ?_, answers, taken, unlimited⟩
    change script.next = _
    unfold next
    rw [answers]
    rfl
  readLine_cons := by
    rintro line lines shown script ⟨answers, taken, unlimited⟩
    refine ⟨{ script with answers := lines.map fun line => .ok (some line) }, ?_, rfl, taken,
      unlimited⟩
    change script.next = _
    unfold next
    rw [answers]
    rfl

end Script

/-! ## One round -/

namespace Machine

theorem sendLine_of_live
    {machine : Machine} (live : machine.phase.isStopped = false) (line : String) :
    machine.sendLine line = (.ok (), machine.feed (lineCodes line)) := by
  rw [sendLine_eq, enqueueAll_of_live live]

theorem isStopped_sendLine
    {machine : Machine} (live : machine.phase.isStopped = false) (line : String) :
    (machine.sendLine line).2.phase.isStopped = false := by
  rw [sendLine_of_live live]
  exact isStopped_feed live (lineCodes line)

section Rounds

variable {σ : Type} {console : Console (StateM σ)} {prompt : String} {limit : Nat}
  {machine stopped : Machine} {state next last : σ}

theorem converse_of_unreturned (ran : machine.run limit = none) (rounds : Nat) :
    (machine.converse console prompt limit (rounds + 1)).run state = (none, state) := by
  rw [converse, runText, ran]
  rfl

/-- A round in which the program faults is the last one, and shows nothing. -/
theorem converse_of_faulted
    {fault : Fault} (ran : machine.run limit = some (.error fault, stopped)) (rounds : Nat) :
    (machine.converse console prompt limit (rounds + 1)).run state =
      (some (.error (.machine fault), stopped), state) := by
  rw [converse, runText, ran]
  rfl

theorem converse_of_halted
    (ran : machine.run limit = some (.ok .halted, stopped))
    (wrote : (console.writeAll
      (Transcript.display ⟨stopped.drain.1, .halted⟩ prompt)).run state = (.ok (), next))
    (rounds : Nat) :
    (machine.converse console prompt limit (rounds + 1)).run state =
      (some (.ok .halted, stopped.drain.2), next) := by
  rw [converse, runText, ran]
  simp only [Option.map_some]
  rw [run_bind_of_run wrote]
  rfl

theorem converse_of_exhausted
    (ran : machine.run limit = some (.ok .blocked, stopped))
    (wrote : (console.writeAll
      (Transcript.display ⟨stopped.drain.1, .blocked⟩ prompt)).run state = (.ok (), next))
    (ended : console.readLine.run next = (.ok none, last)) (rounds : Nat) :
    (machine.converse console prompt limit (rounds + 1)).run state =
      (some (.ok .blocked, stopped.drain.2), last) := by
  rw [converse, runText, ran]
  simp only [Option.map_some]
  rw [run_bind_of_run wrote]
  simp only
  rw [if_neg (by decide), run_bind_of_run ended]
  rfl

/-- A round in which the program waits goes on with the machine that was sent the next line. -/
theorem converse_of_line
    {line : String} (ran : machine.run limit = some (.ok .blocked, stopped))
    (wrote : (console.writeAll
      (Transcript.display ⟨stopped.drain.1, .blocked⟩ prompt)).run state = (.ok (), next))
    (read : console.readLine.run next = (.ok (some line), last))
    (waits : stopped.phase = .blocked) (rounds : Nat) :
    (machine.converse console prompt limit (rounds + 1)).run state =
      ((stopped.drain.2.sendLine line).2.converse console prompt limit rounds).run last := by
  have live : stopped.drain.2.phase.isStopped = false := congrArg Phase.isStopped waits
  have sent := sendLine_of_live live line
  rw [converse, runText, ran]
  simp only [Option.map_some]
  rw [run_bind_of_run wrote]
  simp only
  rw [if_neg (by decide), run_bind_of_run read]
  simp only
  rw [sent]

theorem converse_of_refused
    {phase : Phase} {error : HostError} (ran : machine.run limit = some (.ok phase, stopped))
    (refused : (console.writeAll
      (Transcript.display ⟨stopped.drain.1, phase⟩ prompt)).run state = (.error error, next))
    (rounds : Nat) :
    (machine.converse console prompt limit (rounds + 1)).run state =
      (some (.error (.console error), stopped.drain.2), next) := by
  rw [converse, runText, ran]
  simp only [Option.map_some]
  rw [run_bind_of_run refused]
  rfl

theorem converse_of_unread
    {error : HostError} (ran : machine.run limit = some (.ok .blocked, stopped))
    (wrote : (console.writeAll
      (Transcript.display ⟨stopped.drain.1, .blocked⟩ prompt)).run state = (.ok (), next))
    (unread : console.readLine.run next = (.error error, last)) (rounds : Nat) :
    (machine.converse console prompt limit (rounds + 1)).run state =
      (some (.error (.console error), stopped.drain.2), last) := by
  rw [converse, runText, ran]
  simp only [Option.map_some]
  rw [run_bind_of_run wrote]
  simp only
  rw [if_neg (by decide), run_bind_of_run unread]
  rfl

end Rounds

end Machine

end Intcode
