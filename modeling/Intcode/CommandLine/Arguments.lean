import Intcode.CommandLine.Command
import Intcode.CommandLine.Setting
import Intcode.CommandLine.Usage

/-!
# Arguments

Reading a command from the arguments of the program.  The first argument is the command; behind it
come options and at most one operand, in any order.  The value of an option is attached to it or is
the next argument; then it must not look like an option.  Behind `--` all arguments are operands.
Arguments are examined from left to right and the first that does not fit is reported.
-/

namespace Intcode

inductive Verb where
  | run
  | ascii
  | interactive
  | store
  deriving DecidableEq, Repr

namespace Verb

def name : Verb → String
  | run => "run"
  | ascii => "ascii"
  | interactive => "interactive"
  | store => "store"

def ofName? (name : String) : Option Verb :=
  [run, ascii, interactive, store].find? (·.name == name)

def settings : Verb → List Setting
  | run => [.input, .year, .day, .inputDirectory]
  | ascii => [.line, .year, .day, .inputDirectory]
  | interactive => [.prompt, .year, .day, .inputDirectory]
  | store => [.year, .day, .inputDirectory]

end Verb

/-- What one argument says, taken by itself. -/
inductive Argument where
  | operand
  | help
  /-- An option whose value is the next argument. -/
  | detached (setting : Setting)
  /-- An option with its value. -/
  | attached (setting : Setting) (value : String)
  | unknown
  deriving DecidableEq, Repr

namespace Argument

def ofLong (known : List Setting) (text : List Char) : Argument :=
  let name := String.ofList (text.takeWhile (· != '='))
  match known.find? (·.name == name), text.dropWhile (· != '=') with
  | some setting, [] => .detached setting
  | some setting, _ :: value => .attached setting (String.ofList value)
  | none, [] => if name = "help" then .help else .unknown
  | none, _ :: _ => .unknown

def ofShort (known : List Setting) (letter : Char) (rest : List Char) : Argument :=
  match known.find? (·.letter? == some letter), rest with
  | some setting, [] => .detached setting
  | some setting, '=' :: value => .attached setting (String.ofList value)
  | some setting, value => .attached setting (String.ofList value)
  | none, _ => if letter = 'h' then .help else .unknown

/-- What an argument says to a command with the given options.  A dash alone is an operand. -/
def classify (known : List Setting) (text : String) : Argument :=
  match text.toList with
  | '-' :: '-' :: rest => ofLong known rest
  | '-' :: letter :: rest => ofShort known letter rest
  | _ => .operand

def looksLikeOption (text : String) : Bool :=
  match text.toList with
  | '-' :: _ :: _ => true
  | _ => false

end Argument

structure Draft where
  given : List (Setting × String)
  file? : Option String

namespace Draft

def empty : Draft :=
  ⟨[], none⟩

def set (draft : Draft) (setting : Setting) (value : String) : Except UsageError Draft :=
  if !setting.repeats && (draft.given.lookup setting).isSome then
    .error (.repeatedOption setting.name)
  else if setting.accepts value then
    .ok { draft with given := draft.given ++ [(setting, value)] }
  else
    .error (.invalidValue setting.name value)

def addOperand (draft : Draft) (operand : String) : Except UsageError Draft :=
  if draft.file?.isSome then .error (.unexpectedOperand operand)
  else if operand = "" then .error .emptyPath
  else .ok { draft with file? := some operand }

def addOperands (draft : Draft) : List String → Except UsageError Draft
  | [] => .ok draft
  | operand :: rest => do (← draft.addOperand operand).addOperands rest

/-- Read arguments into a draft.  There is no draft if help is asked for. -/
def read (known : List Setting) (draft : Draft) : List String → Except UsageError (Option Draft)
  | [] => .ok (some draft)
  | argument :: rest =>
      if argument = "--" then
        some <$> draft.addOperands rest
      else
        match Argument.classify known argument, rest with
        | .operand, rest => do (← draft.addOperand argument).read known rest
        | .help, _ => .ok none
        | .attached setting value, rest => do (← draft.set setting value).read known rest
        | .detached setting, [] => .error (.missingValue setting.name)
        | .detached setting, value :: rest =>
            if Argument.looksLikeOption value then .error (.missingValue setting.name)
            else do (← draft.set setting value).read known rest
        | .unknown, _ => .error (.unknownOption argument)
termination_by structural arguments => arguments

def value? (draft : Draft) (setting : Setting) : Option String :=
  draft.given.lookup setting

def values (draft : Draft) (setting : Setting) : List String :=
  draft.given.filterMap fun (given, value) => if given = setting then some value else none

/-- The cache: below the directory given, else below that of the environment, else below the usual
one. -/
def cache (environment : Option String) (draft : Draft) : Except UsageError Cache :=
  match draft.value? .inputDirectory with
  | some root => .ok ⟨⟨root⟩⟩
  | none =>
      match environment with
      | some root =>
          if root = "" then .error (.invalidValue Setting.inputDirectory.name root)
          else .ok ⟨⟨root⟩⟩
      | none => .ok ⟨⟨Cache.defaultRoot⟩⟩

def puzzle? (draft : Draft) : Option UInt16 × Option UInt8 :=
  (draft.value? .year >>= Setting.readYear?, draft.value? .day >>= Setting.readDay?)

/-- Where the program comes from: either a file or a year and a day, not both and not half. -/
def source (environment : Option String) (draft : Draft) : Except UsageError Source := do
  let cache ← draft.cache environment
  match draft.file?, draft.puzzle? with
  | some file, (none, none) => .ok (.file ⟨file⟩)
  | none, (some year, some day) => .ok (.cached cache ⟨year, day⟩)
  | none, _ => .error .missingSource
  | some _, _ => .error .conflictingSources

def command (environment : Option String) (draft : Draft) : Verb → Except UsageError Command
  | .run => do
      return .run (← draft.source environment) ((draft.value? .input).getD "")
  | .ascii => do
      return .ascii (← draft.source environment) (draft.values .line)
  | .interactive => do
      let prompt := (draft.value? .prompt).getD Command.defaultPrompt
      return .interactive (← draft.source environment) prompt
  | .store => do
      let cache ← draft.cache environment
      match draft.file?, draft.puzzle? with
      | some file, (some year, some day) => .ok (.store ⟨file⟩ cache ⟨year, day⟩)
      | none, _ => .error .missingSource
      | _, (none, _) => .error (.missingOption Setting.year.name)
      | _, (_, none) => .error (.missingOption Setting.day.name)

end Draft

namespace Command

def ofHelpArguments : List String → Except UsageError Command
  | [] => .ok .help
  | [name] =>
      if name = "help" ∨ (Verb.ofName? name).isSome then .ok .help
      else .error (.unknownCommand name)
  | _ :: extra :: _ => .error (.unexpectedOperand extra)

/-- What an argument in front of any command asks for, when it asks for help or the version. -/
def ofFlag? (argument : String) : Option Command :=
  match argument.toList with
  | '-' :: '-' :: _ =>
      if argument = "--help" then some .help
      else if argument = "--version" then some .version
      else none
  | '-' :: 'h' :: _ => some .help
  | '-' :: 'V' :: _ => some .version
  | _ => none

/-- The command of the program's arguments, where the environment may name the directory of the
cache. -/
def ofArguments (environment : Option String) : List String → Except UsageError Command
  | [] => .error .noCommand
  | first :: rest =>
      match ofFlag? first, Verb.ofName? first with
      | some command, _ => .ok command
      | none, some verb => do
          match ← Draft.empty.read verb.settings rest with
          | some draft => draft.command environment verb
          | none => .ok .help
      | none, none =>
          if first = "help" then ofHelpArguments rest
          else if Argument.looksLikeOption first then .error (.unknownOption first)
          else .error (.unknownCommand first)

end Command

end Intcode
