import Mathlib.Data.List.Basic
import Mathlib.Data.List.TakeWhile
import Intcode.Fault
import Intcode.Proofs.Text.Numerals
import Intcode.Proofs.Text.Quoting

/-!
# Reading the line of a fault

The line that reports a fault is read back as the fault.  Each kind of fault has words of its own in
front, an integer ends where no digit follows, and quoted text ends at its closing quote, so that a
piece of program text cannot pass for the words behind it.
-/

namespace Intcode

namespace Decimal

/-! ## An integer in front -/

def isNumeric (char : Char) : Bool :=
  char.isDigit || char == '+' || char == '-'

def readFront? (text : List Char) : Option (Int × List Char) :=
  (read? (text.takeWhile isNumeric)).map fun value => (value, text.dropWhile isNumeric)

theorem isNumeric_of_mem_render {value : Int} :
    ∀ char ∈ render value, isNumeric char = true := by
  intro char listed
  rcases char_of_mem_render listed with isDigit | rfl | rfl
  · rw [isNumeric, isDigit]
    rfl
  · rfl
  · rfl

/-- An integer is read in front of words that do not go on with it. -/
theorem readFront?_render_append (value : Int) {words : String}
    (ends : words.toList.head?.map isNumeric = some false) (rest : List Char) :
    readFront? (render value ++ (words.toList ++ rest)) = some (value, words.toList ++ rest) := by
  obtain ⟨first, isFirst, notNumeric⟩ := Option.map_eq_some_iff.1 ends
  obtain ⟨later, split⟩ := List.head?_eq_some_iff.1 isFirst
  rw [split, List.cons_append, readFront?, List.takeWhile_append_of_pos isNumeric_of_mem_render,
    List.dropWhile_append_of_pos isNumeric_of_mem_render, List.takeWhile_cons,
    List.dropWhile_cons, notNumeric, if_neg Bool.false_ne_true, if_neg Bool.false_ne_true,
    List.append_nil, read?_render]
  rfl

/-- An integer is read at the end of a text. -/
theorem readFront?_render (value : Int) : readFront? (render value) = some (value, []) := by
  have taken : (render value).takeWhile isNumeric = render value :=
    List.takeWhile_eq_self_iff.2 isNumeric_of_mem_render
  have dropped : (render value).dropWhile isNumeric = [] :=
    List.dropWhile_eq_nil_iff.2 isNumeric_of_mem_render
  rw [readFront?, taken, dropped, read?_render]
  rfl

theorem isLine_render (value : Int) : Text.isLine (render value) = true := by
  have none : ∀ digit < 10, Text.isLineBreak (Nat.digitChar digit) = false := by decide
  apply Text.isLine_iff.2
  intro char listed
  rcases char_of_mem_render listed with isDigit | rfl | rfl
  · obtain ⟨digit, small, rfl⟩ := exists_digitChar isDigit
    exact none digit small
  · rfl
  · rfl

end Decimal

theorem Address.ofInt?_toNat (address : Address) : ofInt? address.toNat = some address :=
  ofInt?_eq_some_iff.2 rfl

namespace Fault

/-! ## The lines as characters -/

theorem toList_message_malformedProgram (cell : Nat) (token : String) :
    (malformedProgram cell token).message.toList =
      "malformed program: cell ".toList ++ (Decimal.render cell ++ (" is ".toList ++
        (Text.Quoted.encode token.toList ++ ", not an integer".toList))) := by
  change ("malformed program: cell " ++ Decimal.text cell ++ " is " ++
    String.ofList (Text.Quoted.encode token.toList) ++ ", not an integer").toList = _
  simp only [Decimal.text, String.toList_append, String.toList_ofList, List.append_assoc]

theorem toList_message_invalidAddress (value : Int) :
    (invalidAddress value).message.toList = "invalid address ".toList ++ Decimal.render value := by
  change ("invalid address " ++ Decimal.text value).toList = _
  simp only [Decimal.text, String.toList_append, String.toList_ofList]

theorem toList_message_invalidAddressingMode (ip : Address) (parameter mode : Nat) :
    (invalidAddressingMode ip parameter mode).message.toList =
      "invalid addressing mode ".toList ++ (Decimal.render mode ++ (" for parameter ".toList ++
        (Decimal.render parameter ++ (" at ip ".toList ++ Decimal.render ip.toNat)))) := by
  change ("invalid addressing mode " ++ Decimal.text mode ++ " for parameter " ++
    Decimal.text parameter ++ " at ip " ++ Decimal.text ip.toNat).toList = _
  simp only [Decimal.text, String.toList_append, String.toList_ofList, List.append_assoc]

theorem toList_message_unknownOpcode (ip : Address) (opcode : Int) :
    (unknownOpcode ip opcode).message.toList =
      "unknown opcode ".toList ++ (Decimal.render opcode ++ (" at ip ".toList ++
        Decimal.render ip.toNat)) := by
  change ("unknown opcode " ++ Decimal.text opcode ++ " at ip " ++
    Decimal.text ip.toNat).toList = _
  simp only [Decimal.text, String.toList_append, String.toList_ofList, List.append_assoc]

theorem toList_message_invalidTransition (phase : Phase) (operation : Operation) :
    (invalidTransition phase operation).message.toList =
      "cannot ".toList ++ (operation.phrase.toList ++ (" a ".toList ++ (phase.name.toList ++
        " machine".toList))) := by
  change ("cannot " ++ operation.phrase ++ " a " ++ phase.name ++ " machine").toList = _
  simp only [String.toList_append, List.append_assoc]

/-! ## Reading -/

def behind? (words : String) (text : List Char) : Option (List Char) :=
  text.dropPrefix? words.toList

def readMalformedProgram? (text : List Char) : Option Fault := do
  let text ← behind? "malformed program: cell " text
  let (cell, text) ← Decimal.readFront? text
  let text ← behind? " is " text
  let (token, text) ← Text.Quoted.decode? text
  if text = ", not an integer".toList then
    return malformedProgram cell.toNat (String.ofList token)
  else
    none

def readInvalidAddress? (text : List Char) : Option Fault := do
  let text ← behind? "invalid address " text
  let (value, []) ← Decimal.readFront? text | none
  return invalidAddress value

def readInvalidAddressingMode? (text : List Char) : Option Fault := do
  let text ← behind? "invalid addressing mode " text
  let (mode, text) ← Decimal.readFront? text
  let text ← behind? " for parameter " text
  let (parameter, text) ← Decimal.readFront? text
  let text ← behind? " at ip " text
  let (position, []) ← Decimal.readFront? text | none
  let ip ← Address.ofInt? position
  return invalidAddressingMode ip parameter.toNat mode.toNat

def readUnknownOpcode? (text : List Char) : Option Fault := do
  let text ← behind? "unknown opcode " text
  let (opcode, text) ← Decimal.readFront? text
  let text ← behind? " at ip " text
  let (position, []) ← Decimal.readFront? text | none
  let ip ← Address.ofInt? position
  return unknownOpcode ip opcode

def readChoice? {α : Type} (choices : List α) (words : α → String) (text : List Char) :
    Option (α × List Char) :=
  choices.findSome? fun choice => (behind? (words choice) text).map fun rest => (choice, rest)

def readOperation? : List Char → Option (Operation × List Char) :=
  readChoice? [.run, .enqueueInput] Operation.phrase

def readPhase? : List Char → Option (Phase × List Char) :=
  readChoice? [.ready, .running, .blocked, .halted, .faulted] Phase.name

def readInvalidTransition? (text : List Char) : Option Fault := do
  let text ← behind? "cannot " text
  let (operation, text) ← readOperation? text
  let text ← behind? " a " text
  let (phase, text) ← readPhase? text
  if text = " machine".toList then return invalidTransition phase operation else none

def ofMessage? (text : List Char) : Option Fault :=
  readMalformedProgram? text <|> readInvalidAddress? text <|> readInvalidAddressingMode? text <|>
    readUnknownOpcode? text <|> readInvalidTransition? text

theorem behind?_append (words : String) (rest : List Char) :
    behind? words (words.toList ++ rest) = some rest :=
  List.dropPrefix?_append_of_beq rest (BEq.refl words.toList)

theorem readOperation?_phrase_append (operation : Operation) (rest : List Char) :
    readOperation? (operation.phrase.toList ++ rest) = some (operation, rest) := by
  have found := behind?_append operation.phrase rest
  cases operation <;> simp only [readOperation?, readChoice?, List.findSome?_cons, found] <;> rfl

theorem readPhase?_name_append (phase : Phase) (rest : List Char) :
    readPhase? (phase.name.toList ++ rest) = some (phase, rest) := by
  have found := behind?_append phase.name rest
  cases phase <;> simp only [readPhase?, readChoice?, List.findSome?_cons, found] <;> rfl

/-! ### Each kind by its own reader -/

/-- A reader goes on with what it has read first. -/
theorem bind_of_read {α β : Type} {first : Option α} {read : α} {further : α → Option β}
    {result : β} (reads : first = some read) (goes : further read = some result) :
    (first >>= further) = some result :=
  Option.bind_eq_some_iff.2 ⟨read, reads, goes⟩

theorem readMalformedProgram?_message (cell : Nat) (token : String) :
    readMalformedProgram? (malformedProgram cell token).message.toList =
      some (malformedProgram cell token) := by
  rw [toList_message_malformedProgram, readMalformedProgram?]
  apply bind_of_read (behind?_append _ _)
  apply bind_of_read (Decimal.readFront?_render_append _ (by decide) _)
  apply bind_of_read (behind?_append _ _)
  apply bind_of_read (Text.Quoted.decode?_encode_append _ _)
  refine (if_pos rfl).trans ?_
  rw [Int.toNat_natCast, String.ofList_toList]
  rfl

theorem readInvalidAddress?_message (value : Int) :
    readInvalidAddress? (invalidAddress value).message.toList = some (invalidAddress value) := by
  rw [toList_message_invalidAddress, readInvalidAddress?]
  apply bind_of_read (behind?_append _ _)
  exact bind_of_read (Decimal.readFront?_render _) rfl

theorem readInvalidAddressingMode?_message (ip : Address) (parameter mode : Nat) :
    readInvalidAddressingMode? (invalidAddressingMode ip parameter mode).message.toList =
      some (invalidAddressingMode ip parameter mode) := by
  rw [toList_message_invalidAddressingMode, readInvalidAddressingMode?]
  apply bind_of_read (behind?_append _ _)
  apply bind_of_read (Decimal.readFront?_render_append _ (by decide) _)
  apply bind_of_read (behind?_append _ _)
  apply bind_of_read (Decimal.readFront?_render_append _ (by decide) _)
  apply bind_of_read (behind?_append _ _)
  apply bind_of_read (Decimal.readFront?_render _)
  exact bind_of_read (Address.ofInt?_toNat ip) rfl

theorem readUnknownOpcode?_message (ip : Address) (opcode : Int) :
    readUnknownOpcode? (unknownOpcode ip opcode).message.toList =
      some (unknownOpcode ip opcode) := by
  rw [toList_message_unknownOpcode, readUnknownOpcode?]
  apply bind_of_read (behind?_append _ _)
  apply bind_of_read (Decimal.readFront?_render_append _ (by decide) _)
  apply bind_of_read (behind?_append _ _)
  apply bind_of_read (Decimal.readFront?_render _)
  exact bind_of_read (Address.ofInt?_toNat ip) rfl

theorem readInvalidTransition?_message (phase : Phase) (operation : Operation) :
    readInvalidTransition? (invalidTransition phase operation).message.toList =
      some (invalidTransition phase operation) := by
  rw [toList_message_invalidTransition, readInvalidTransition?]
  apply bind_of_read (behind?_append _ _)
  apply bind_of_read (readOperation?_phrase_append operation _)
  apply bind_of_read (behind?_append _ _)
  apply bind_of_read (readPhase?_name_append phase _)
  exact if_pos rfl

/-- The line of a fault is read back as the fault. -/
theorem ofMessage?_message (fault : Fault) : ofMessage? fault.message.toList = some fault := by
  -- The readers tried before the right one stop within the words in front.
  cases fault with
  | malformedProgram cell token =>
      rw [ofMessage?, readMalformedProgram?_message]
      rfl
  | invalidAddress value =>
      have read := readInvalidAddress?_message value
      rw [toList_message_invalidAddress] at read ⊢
      rw [ofMessage?, read]
      rfl
  | invalidAddressingMode ip parameter mode =>
      have read := readInvalidAddressingMode?_message ip parameter mode
      rw [toList_message_invalidAddressingMode] at read ⊢
      rw [ofMessage?, read]
      rfl
  | unknownOpcode ip opcode =>
      have read := readUnknownOpcode?_message ip opcode
      rw [toList_message_unknownOpcode] at read ⊢
      rw [ofMessage?, read]
      rfl
  | invalidTransition phase operation =>
      have read := readInvalidTransition?_message phase operation
      rw [toList_message_invalidTransition] at read ⊢
      rw [ofMessage?, read]
      rfl

/-! ## On one line -/

/-- Nothing in the line of a fault breaks it. -/
theorem isLine_message (fault : Fault) : Text.isLine fault.message.toList = true := by
  cases fault with
  | malformedProgram cell token =>
      rw [toList_message_malformedProgram]
      simp only [Text.isLine_append, Decimal.isLine_render, Text.Quoted.isLine_encode]
      rfl
  | invalidAddress value =>
      rw [toList_message_invalidAddress]
      simp only [Text.isLine_append, Decimal.isLine_render]
      rfl
  | invalidAddressingMode ip parameter mode =>
      rw [toList_message_invalidAddressingMode]
      simp only [Text.isLine_append, Decimal.isLine_render]
      rfl
  | unknownOpcode ip opcode =>
      rw [toList_message_unknownOpcode]
      simp only [Text.isLine_append, Decimal.isLine_render]
      rfl
  | invalidTransition phase operation =>
      have phrase : Text.isLine operation.phrase.toList = true := by cases operation <;> rfl
      have name : Text.isLine phase.name.toList = true := by cases phase <;> rfl
      rw [toList_message_invalidTransition]
      simp only [Text.isLine_append, phrase, name]
      rfl

/--
The line of a fault is read back as the fault, so two faults with the same line are the same.  It is
one line, and a piece of program text stands in it between quotes, from which it is read back
whatever it is made of and whatever stands behind it.
-/
theorem messages_are_unambiguous :
    (∀ fault : Fault, ofMessage? fault.message.toList = some fault) ∧
      (∀ first second : Fault, first.message = second.message ↔ first = second) ∧
      (∀ fault : Fault, ∀ char ∈ fault.message.toList, Text.isLineBreak char = false) ∧
      ∀ (cell : Nat) (token : String),
        (malformedProgram cell token).message.toList =
            "malformed program: cell ".toList ++ (Decimal.render cell ++ (" is ".toList ++
              (Text.Quoted.encode token.toList ++ ", not an integer".toList))) ∧
          ∀ rest, Text.Quoted.decode? (Text.Quoted.encode token.toList ++ rest) =
            some (token.toList, rest) := by
  refine ⟨ofMessage?_message, fun first second => ⟨fun same => ?_, congrArg message⟩,
    fun fault => Text.isLine_iff.1 (isLine_message fault), fun cell token =>
      ⟨toList_message_malformedProgram cell token, Text.Quoted.decode?_encode_append _⟩⟩
  have read := ofMessage?_message first
  rw [same, ofMessage?_message] at read
  exact (Option.some.inj read).symm

end Fault

end Intcode
