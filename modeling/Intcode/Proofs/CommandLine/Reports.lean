import Intcode.Proofs.CommandLine.Printing
import Intcode.Proofs.CommandLine.Worlds
import Intcode.Proofs.Machine.Chunks

/-!
# Reports of the batch commands

A batch command runs a machine once, with all of its input, and reports what the machine did.  If it
halted or waits for more input, its whole output is printed; only if it halted, the command
succeeds.  If it faulted, or there was none because the program or the input is malformed, nothing
is printed and the command fails.
-/

namespace Intcode

/-! ## What a batch command reports -/

namespace Command

/-- The program text and the input are well formed, and the machine with the one returns from its
run on the other. -/
def Runs (program : String) (input : Except Failure (List Int)) (result : Except Fault Phase)
    (after : Machine) : Prop :=
  ∃ cells values, Program.parse program = .ok cells ∧ input = .ok values ∧
    ((Machine.empty.start cells).feed values).Returns result after

/--
How a batch command ends and what it prints, from what the machine did.  How the output of the
machine is printed depends on the command.
-/
inductive Reports (prints : List Char → List Int → Prop) (program : String)
    (input : Except Failure (List Int)) : Exit → String → Prop where
  | malformedProgram {fault : Fault} (malformed : Program.parse program = .error fault) :
      Reports prints program input (.failure (.fault fault)) ""
  | malformedInput {cells : Program} {failure : Failure}
      (parsed : Program.parse program = .ok cells) (malformed : input = .error failure) :
      Reports prints program input (.failure failure) ""
  | faulted {fault : Fault} {after : Machine} (runs : Runs program input (.error fault) after) :
      Reports prints program input (.failure (.fault fault)) ""
  | waiting {after : Machine} {printed : String} (runs : Runs program input (.ok .blocked) after)
      (output : prints printed.toList after.channel.output.toList) :
      Reports prints program input (.failure .waiting) printed
  | halted {after : Machine} {printed : String} (runs : Runs program input (.ok .halted) after)
      (output : prints printed.toList after.channel.output.toList) :
      Reports prints program input .success printed

theorem Runs.unique
    {program : String} {input : Except Failure (List Int)} {result other : Except Fault Phase}
    {after last : Machine} (runs : Runs program input result after)
    (again : Runs program input other last) : result = other := by
  obtain ⟨cells, values, parsed, given, returns⟩ := runs
  obtain ⟨cells', values', parsed', given', returns'⟩ := again
  rw [parsed] at parsed'
  rw [given] at given'
  cases parsed'
  cases given'
  exact (returns.unique returns').1

theorem Reports.status_eq_zero_iff
    {prints : List Char → List Int → Prop} {program : String}
    {input : Except Failure (List Int)} {exit : Exit} {printed : String}
    (reports : Reports prints program input exit printed) :
    exit.status = 0 ↔ ∃ after, Runs program input (.ok .halted) after := by
  cases reports with
  | malformedProgram malformed =>
      refine ⟨nofun, ?_⟩
      rintro ⟨after, cells, values, parsed, -⟩
      rw [malformed] at parsed
      cases parsed
  | malformedInput parsed malformed =>
      refine ⟨nofun, ?_⟩
      rintro ⟨after, cells, values, -, given, -⟩
      rw [malformed] at given
      cases given
  | faulted runs =>
      refine ⟨nofun, ?_⟩
      rintro ⟨last, halts⟩
      cases runs.unique halts
  | waiting runs output =>
      refine ⟨nofun, ?_⟩
      rintro ⟨last, halts⟩
      cases runs.unique halts
  | halted runs output => exact ⟨fun _ => ⟨_, runs⟩, fun _ => rfl⟩

theorem Reports.status_le_one
    {prints : List Char → List Int → Prop} {program : String}
    {input : Except Failure (List Int)} {exit : Exit} {printed : String}
    (reports : Reports prints program input exit printed) : exit.status ≤ 1 := by
  cases reports with
  | halted runs output => exact Nat.zero_le 1
  | _ => exact Nat.le_refl 1

/-! ## Transcripts of batch commands -/

def transcriptOf (result : Except Fault Phase) (after : Machine) : Except Failure Transcript :=
  match result with
  | .error fault => .error (.fault fault)
  | .ok phase => .ok ⟨after.channel.output.toList, phase⟩

theorem batch_eq
    {machine : Machine} (live : machine.phase.isStopped = false) (limit : Nat)
    (values : List Int) :
    machine.batch limit values =
      ((machine.feed values).run limit).map fun answer => transcriptOf answer.1 answer.2 := by
  rw [Machine.batch, Machine.enqueueAll_of_live live]
  simp only [Machine.runText]
  rcases (machine.feed values).run limit with _ | ⟨fault | phase, after⟩ <;> rfl

/-- What the run of a program on an input comes to.  The program is examined before the input. -/
def transcribe (limit : Nat) (program : String) (input : Except Failure (List Int)) :
    Option (Except Failure Transcript) :=
  match Machine.ofText program, input with
  | .error fault, _ => some (.error (.fault fault))
  | .ok _, .error failure => some (.error failure)
  | .ok machine, .ok values => machine.batch limit values

section Transcribing

variable {program : String} {input : Except Failure (List Int)} {limit : Nat}

theorem transcribe_of_malformed
    {fault : Fault} (malformed : Program.parse program = .error fault) :
    transcribe limit program input = some (.error (.fault fault)) := by
  unfold transcribe Machine.ofText
  rw [malformed]
  rfl

theorem transcribe_of_malformed_input
    {cells : Program} {failure : Failure} (parsed : Program.parse program = .ok cells)
    (malformed : input = .error failure) :
    transcribe limit program input = some (.error failure) := by
  unfold transcribe Machine.ofText
  rw [parsed, malformed]
  rfl

theorem transcribe_of_parsed
    {cells : Program} {values : List Int} (parsed : Program.parse program = .ok cells)
    (given : input = .ok values) :
    transcribe limit program input =
      (((Machine.empty.start cells).feed values).run limit).map fun answer =>
        transcriptOf answer.1 answer.2 := by
  unfold transcribe Machine.ofText
  rw [parsed, given]
  exact batch_eq rfl limit values

end Transcribing

def exitOfAnswer : Except Failure Transcript → Exit
  | .error failure => .failure failure
  | .ok transcript => if transcript.phase = .blocked then .failure .waiting else .success

def textOfAnswer (format : Transcript → Printout) : Except Failure Transcript → String
  | .error _ => ""
  | .ok transcript => String.join (format transcript).texts

/-- What a program comes to is reported. -/
theorem reports_of_transcribe
    {prints : List Char → List Int → Prop} {program : String}
    {input : Except Failure (List Int)} {limit : Nat} {answer : Except Failure Transcript}
    {format : Transcript → Printout}
    (suits : ∀ transcript, prints (String.join (format transcript).texts).toList
      transcript.codes)
    (answered : transcribe limit program input = some answer) :
    Reports prints program input (exitOfAnswer answer) (textOfAnswer format answer) := by
  cases parsed : Program.parse program with
  | error fault =>
      rw [transcribe_of_malformed parsed] at answered
      cases answered
      exact .malformedProgram parsed
  | ok cells =>
      cases given : input with
      | error failure =>
          rw [transcribe_of_malformed_input parsed given] at answered
          cases answered
          exact .malformedInput parsed rfl
      | ok values =>
          rw [transcribe_of_parsed parsed given] at answered
          obtain ⟨⟨result, after⟩, ran, rfl⟩ := Option.map_eq_some_iff.1 answered
          have live := Machine.isStopped_feed (rfl : (Machine.empty.start cells).phase.isStopped =
            false) values
          have runs : Runs program (.ok values) result after :=
            ⟨cells, values, parsed, rfl, limit, ran⟩
          cases result with
          | error fault => exact .faulted runs
          | ok phase =>
              -- A run that ends without a fault ends blocked or halted, so no phase is left out.
              have output := suits ⟨after.channel.output.toList, phase⟩
              obtain ⟨-, rfl | rfl⟩ := Machine.Returns.phase live ⟨limit, ran⟩
              · exact .waiting runs output
              · exact .halted runs output

/-- A batch command ends if the program or the input is malformed, or else the machine returns. -/
def Ends (program : String) (input : Except Failure (List Int)) : Prop :=
  ∀ cells values, Program.parse program = .ok cells → input = .ok values →
    ∃ result after, ((Machine.empty.start cells).feed values).Returns result after

theorem exists_transcribe
    {program : String} {input : Except Failure (List Int)} (ends : Ends program input) :
    ∃ limit, ∀ larger, limit ≤ larger →
      ∃ answer, transcribe larger program input = some answer := by
  cases parsed : Program.parse program with
  | error fault => exact ⟨0, fun larger _ => ⟨_, transcribe_of_malformed parsed⟩⟩
  | ok cells =>
      cases given : input with
      | error failure =>
          exact ⟨0, fun larger _ => ⟨_, transcribe_of_malformed_input parsed rfl⟩⟩
      | ok values =>
          obtain ⟨result, after, limit, ran⟩ := ends cells values parsed given
          refine ⟨limit, fun larger le => ⟨transcriptOf result after, ?_⟩⟩
          rw [transcribe_of_parsed parsed rfl, Machine.run_mono ran le]
          rfl

/-! ## Printing transcripts -/

theorem run_printAnswer_of_some
    {format : Transcript → Printout}
    (waits : ∀ transcript, (format transcript).isWaiting = (transcript.phase == .blocked))
    (answer : Except Failure Transcript) (world : World) :
    ∃ result, exitOf result = exitOfAnswer answer ∧
      (printAnswer World.host.console (some (answer.map format))).run world =
        (some result, world.prints (textOfAnswer format answer)) := by
  cases answer with
  | error failure =>
      rw [textOfAnswer, World.prints_empty]
      exact ⟨.error failure, rfl, rfl⟩
  | ok transcript =>
      have wrote := World.run_writeAll (format transcript).texts world
      have printed : (print World.host.console (format transcript)).run world =
          (if transcript.phase = .blocked then .error .waiting else .ok (),
            world.prints (String.join (format transcript).texts)) := by
        rw [print, run_bind_of_run wrote]
        simp only [waits, beq_iff_eq]
        rfl
      refine ⟨if transcript.phase = .blocked then .error .waiting else .ok (), ?_, ?_⟩
      · rw [exitOfAnswer]
        split <;> rfl
      · change (printAnswer World.host.console (some (.ok (format transcript)))).run world = _
        rw [printAnswer, run_bind_of_run printed]
        rfl

def inputOfValues (values : String) : Except Failure (List Int) :=
  match Program.parse values with
  | .error fault => .error (.inputValues fault)
  | .ok input => .ok input.cells

theorem runValues_eq (limit : Nat) (program values : String) :
    runValues limit program values =
      (transcribe limit program (inputOfValues values)).map fun answer =>
        answer.map fun transcript => Printout.ofValues transcript.codes transcript.phase := by
  unfold runValues transcribe inputOfValues
  cases Machine.ofText program with
  | error fault => rfl
  | ok machine => cases Program.parse values <;> rfl

theorem runLines_eq (limit : Nat) (program : String) (lines : List String) :
    runLines limit program lines =
      (transcribe limit program (.ok (lines.flatMap lineCodes))).map fun answer =>
        answer.map Printout.ofTranscript := by
  unfold runLines transcribe
  cases Machine.ofText program <;> rfl

/-! ## Faithful reports -/

/--
The arguments are read as a command that reports what the machine does with a program on an input:
whenever it ends, and it does if the machine stops, it ends and prints as it should, its status says
whether the machine halted, and nothing else changes.
-/
structure Faithful (prints : List Char → List Int → Prop) (program : String)
    (input : Except Failure (List Int)) (world : World) (reading : Reading)
    (environment : Option String) (arguments : List String) : Prop where
  reports {limit rounds : Nat} {exit : Exit} {after : World}
    (performed : (performWith reading World.host limit rounds environment arguments).run world =
      (some exit, after)) :
    ∃ printed, Reports prints program input exit printed ∧ after = world.prints printed
  status {limit rounds : Nat} {exit : Exit} {after : World}
    (performed : (performWith reading World.host limit rounds environment arguments).run world =
      (some exit, after)) :
    exit.status ≤ 1 ∧ (exit.status = 0 ↔ ∃ last, Runs program input (.ok .halted) last)
  answers (ends : Ends program input) :
    ∃ limit, ∀ larger, limit ≤ larger → ∀ rounds, ∃ exit after,
      (performWith reading World.host larger rounds environment arguments).run world =
        (some exit, after)

section Batch

variable {prints : List Char → List Int → Prop} {program : String}
  {input : Except Failure (List Int)} {world : World} {reading : Reading}
  {environment : Option String} {arguments : List String} {command : Command} {source : Source}
  {format : Transcript → Printout}

/--
A command that runs the program of its source on an input, and prints the transcript in a format
that suits.
-/
structure IsBatch (prints : List Char → List Int → Prop) (input : Except Failure (List Int))
    (format : Transcript → Printout) (source : Source) (command : Command) : Prop where
  executes (limit rounds : Nat) : command.execute World.host limit rounds =
    withProgram World.host.files source fun program =>
      printAnswer World.host.console
        ((transcribe limit program input).map fun answer => answer.map format)
  waits (transcript : Transcript) :
    (format transcript).isWaiting = (transcript.phase == .blocked)
  suits (transcript : Transcript) :
    prints (String.join (format transcript).texts).toList transcript.codes

theorem IsBatch.run_performWith
    (batch : IsBatch prints input format source command)
    (names : reading environment arguments = .ok command)
    (loads : source.text world.tree = .ok program) (limit rounds : Nat) :
    (performWith reading World.host limit rounds environment arguments).run world =
      match transcribe limit program input with
      | none => (none, world)
      | some answer => (some (exitOfAnswer answer), world.prints (textOfAnswer format answer)) := by
  rw [Command.run_performWith names, batch.executes, run_withProgram_of_ok _ loads]
  cases transcribe limit program input with
  | none => rfl
  | some answer =>
      obtain ⟨result, exits, printed⟩ := run_printAnswer_of_some batch.waits answer world
      rw [Option.map_some, printed]
      simp only [Option.map_some, exits]

theorem IsBatch.reports
    (batch : IsBatch prints input format source command)
    (names : reading environment arguments = .ok command)
    (loads : source.text world.tree = .ok program) {limit rounds : Nat} {exit : Exit}
    {after : World}
    (performed : (performWith reading World.host limit rounds environment arguments).run world =
      (some exit, after)) :
    ∃ printed, Reports prints program input exit printed ∧ after = world.prints printed := by
  rw [batch.run_performWith names loads] at performed
  cases transcribed : transcribe limit program input with
  | none =>
      rw [transcribed] at performed
      cases performed
  | some answer =>
      rw [transcribed] at performed
      cases performed
      exact ⟨_, reports_of_transcribe batch.suits transcribed, rfl⟩

theorem IsBatch.faithful
    (batch : IsBatch prints input format source command)
    (names : reading environment arguments = .ok command)
    (loads : source.text world.tree = .ok program) :
    Faithful prints program input world reading environment arguments where
  reports performed := batch.reports names loads performed
  status performed := by
    obtain ⟨printed, reports, -⟩ := batch.reports names loads performed
    exact ⟨reports.status_le_one, reports.status_eq_zero_iff⟩
  answers ends := by
    obtain ⟨limit, transcribes⟩ := exists_transcribe ends
    refine ⟨limit, fun larger le rounds => ?_⟩
    obtain ⟨answer, transcribed⟩ := transcribes larger le
    rw [batch.run_performWith names loads, transcribed]
    exact ⟨_, _, rfl⟩

end Batch

theorem isBatch_run (source : Source) (values : String) :
    IsBatch Lists (inputOfValues values)
      (fun transcript => Printout.ofValues transcript.codes transcript.phase) source
      (.run source values) where
  executes limit rounds := by simp only [execute, runValues_eq]
  waits transcript := rfl
  suits transcript := Printout.lists_ofValues transcript.codes transcript.phase

theorem isBatch_ascii (source : Source) (lines : List String) :
    IsBatch Shows (.ok (lines.flatMap lineCodes)) Printout.ofTranscript source
      (.ascii source lines) where
  executes limit rounds := by simp only [execute, runLines_eq]
  waits transcript := rfl
  suits := Printout.shows_ofTranscript

/--
The batch commands report what the machine did.  If the machine that has the program loaded and was
fed the input stops, the command ends, too, and its status is zero exactly when the program and the
input are well formed and the machine halts, and one otherwise.  All output is printed in order if
the machine halts or waits for more input: values on lines that read back as the values, and text as
the characters of the ASCII codes with all other codes on lines behind it.  Nothing is printed if
the machine faults or there is none, and a malformed program is reported before malformed input.
-/
theorem batch_commands_report_machine
    {source : Source} {program : String} {world : World}
    (loads : (load World.host.files source).run world = (.ok program, world))
    (reading : Reading) :
    (∀ environment arguments values,
      reading environment arguments = .ok (.run source values) →
        Faithful Lists program (inputOfValues values) world reading environment arguments) ∧
      ∀ environment arguments lines,
        reading environment arguments = .ok (.ascii source lines) →
          Faithful Shows program (.ok (lines.flatMap lineCodes)) world reading environment
            arguments := by
  rw [run_load, Prod.mk.injEq] at loads
  constructor
  · intro environment arguments values names
    exact (isBatch_run source values).faithful names loads.1
  · intro environment arguments lines names
    exact (isBatch_ascii source lines).faithful names loads.1

/-- A working directory with a program file `p` that puts out three codes. -/
def greeting : World where
  tree := ⟨[(["w"], .directory), (["w", "p"], .file "104,72,104,105,104,300,99".toUTF8)], ["w"]⟩
  terminal := ⟨[], ""⟩

/-- Two of the codes are characters, and the third is printed on a line. -/
theorem batch_commands_report_machine_greeting :
    ∃ after, (perform World.host 9 0 none ["ascii", "p"]).run greeting = (some .success, after) ∧
      after.terminal.written = "Hi300\n" ∧
        ∃ last, Runs "104,72,104,105,104,300,99" (.ok []) (.ok .halted) last := by
  have text : (Source.file ⟨"p"⟩).text greeting.tree = .ok "104,72,104,105,104,300,99" := by
    decide +kernel
  have names : ofArguments none ["ascii", "p"] = .ok (.ascii (.file ⟨"p"⟩) []) := by
    decide +kernel
  have exits : ((perform World.host 9 0 none ["ascii", "p"]).run greeting).1 = some .success := by
    decide +kernel
  have written : ((perform World.host 9 0 none ["ascii", "p"]).run greeting).2.terminal.written =
      "Hi300\n" := by
    decide +kernel
  have loads := run_load (.file ⟨"p"⟩) greeting
  rw [text] at loads
  obtain ⟨-, ascii⟩ := batch_commands_report_machine loads ofArguments
  have faithful := ascii none ["ascii", "p"] [] names
  generalize ran : (perform World.host 9 0 none ["ascii", "p"]).run greeting = performed
    at exits written
  obtain ⟨exit, after⟩ := performed
  obtain rfl : exit = some .success := exits
  obtain ⟨-, halts⟩ := faithful.status ran
  exact ⟨after, rfl, written, halts.1 rfl⟩

end Command

end Intcode
