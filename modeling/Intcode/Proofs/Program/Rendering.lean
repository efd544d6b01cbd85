import Intcode.Proofs.History.Reload
import Intcode.Proofs.Program.Grammar

/-!
# Rendering programs

An integer can be written in many ways: with a plus sign or without, with zeros in front of its
digits, and between blanks.  However the integers of a list are written, the text reads back as the
list, and a machine that loads the text is the machine that is given the integers themselves.
-/

namespace Intcode

namespace Program

open Text

/-! ## Layouts -/

/-- How an integer is laid out in a text: whether it has a plus sign when it has no minus sign, how
many zeros stand in front of its digits, and the blanks before and behind it. -/
structure Layout where
  hasPlus : Bool
  zeros : Nat
  before : List Char
  after : List Char
  blankBefore : Blank before
  blankAfter : Blank after

namespace Layout

def digits (layout : Layout) (magnitude : Nat) : List Char :=
  List.replicate layout.zeros '0' ++ Nat.toDigits 10 magnitude

def number (layout : Layout) : Int → List Char
  | .ofNat magnitude => (if layout.hasPlus then ['+'] else []) ++ layout.digits magnitude
  | .negSucc magnitude => '-' :: layout.digits (magnitude + 1)

def piece (layout : Layout) (value : Int) : List Char :=
  layout.before ++ layout.number value ++ layout.after

/-- The layout with nothing that can be left out. -/
def plain : Layout where
  hasPlus := false
  zeros := 0
  before := []
  after := []
  blankBefore := nofun
  blankAfter := nofun

theorem numeral_number (layout : Layout) (value : Int) :
    Decimal.Numeral (layout.number value) value := by
  have spelled (magnitude : Nat) : Decimal.Digits (layout.digits magnitude) magnitude :=
    (Decimal.digits_toDigits magnitude).zeros_append layout.zeros
  cases value with
  | ofNat magnitude =>
      simp only [number]
      split
      · exact .plus (spelled magnitude)
      · exact .unsigned (spelled magnitude)
  | negSucc magnitude => exact .minus (spelled (magnitude + 1))

theorem item_piece (layout : Layout) (value : Int) : Item (layout.piece value) value :=
  .mk layout.blankBefore (layout.numeral_number value) layout.blankAfter

theorem piece_plain (value : Int) : plain.piece value = Decimal.render value := by
  cases value <;> simp [piece, number, digits, plain, Decimal.render]

end Layout

/-! ## Renderings -/

def layOut (entries : List (Layout × Int)) : List Char :=
  List.intercalate [','] (entries.map fun entry => entry.1.piece entry.2)

/-- The texts that render a list of integers: any blanks for none, and otherwise the integers, each
in some layout. -/
inductive Renders : List Char → List Int → Prop where
  | blanks {text : List Char} (blank : Blank text) : Renders text []
  | laidOut (entries : List (Layout × Int)) : Renders (layOut entries) (entries.map Prod.snd)

theorem layOut_singleton (entry : Layout × Int) : layOut [entry] = entry.1.piece entry.2 :=
  List.intercalate_singleton

theorem layOut_cons_cons (first second : Layout × Int) (rest : List (Layout × Int)) :
    layOut (first :: second :: rest) =
      first.1.piece first.2 ++ ',' :: layOut (second :: rest) := by
  simp [layOut, List.intercalate_cons_cons]

theorem items_layOut (first : Layout × Int) (rest : List (Layout × Int)) :
    Items (layOut (first :: rest)) ((first :: rest).map Prod.snd) := by
  induction rest generalizing first with
  | nil =>
      rw [layOut_singleton]
      exact .one (first.1.item_piece first.2)
  | cons second rest ih =>
      rw [layOut_cons_cons]
      exact .more (first.1.item_piece first.2) (ih second)

theorem Renders.denotes {text : List Char} {cells : List Int} (renders : Renders text cells) :
    Denotes text cells := by
  cases renders with
  | blanks blank => exact .blank blank
  | laidOut entries =>
      cases entries with
      | nil => exact .blank nofun
      | cons first rest => exact .items (items_layOut first rest)

/-- The text of a program renders its cells without anything that can be left out. -/
theorem renders_render (program : Program) : Renders program.render.toList program.cells := by
  have laidOut := Renders.laidOut (program.cells.map fun value => (Layout.plain, value))
  have text : layOut (program.cells.map fun value => (Layout.plain, value)) =
      program.render.toList := by
    simp [layOut, render, Function.comp_def, Layout.piece_plain]
  have cells : (program.cells.map fun value => (Layout.plain, value)).map Prod.snd =
      program.cells := by
    simp [Function.comp_def]
  rw [text, cells] at laidOut
  exact laidOut

theorem parse_of_renders {text : String} {cells : List Int} (renders : Renders text.toList cells) :
    parse text = .ok ⟨cells⟩ :=
  parse_eq_ok_iff.2 renders.denotes

end Program

namespace Machine

/-- A machine that loads a text with some cells is the machine that starts them. -/
theorem load_of_parse
    {text : String} {program : Program} (parsed : Program.parse text = .ok program)
    (machine : Machine) : machine.load text = (.ok (), machine.start program) := by
  unfold load
  rw [parsed]

/-- Whether a program is loaded from its text or from its cells, all later calls show the same. -/
theorem sights_of_parse
    {text : String} {program : Program} (parsed : Program.parse text = .ok program)
    (machine : Machine) (limit : Nat) (later : List (Nat × Call)) :
    (machine.passages ((limit, .load text) :: later)).map Passage.sight =
      (machine.passages ((limit, .start program) :: later)).map Passage.sight := by
  have loads : (Call.load text).program? = some program := by
    rw [Call.program?, parsed]
    rfl
  have starts : (Call.start program).program? = some program := rfl
  rw [sights_of_program loads, sights_of_program starts]

end Machine

namespace Program

/--
Parsing inverts rendering.  However a list of integers is rendered, the text is read as the program
of these integers.  On any machine, loading the text succeeds and leaves the machine that starts
the program, so that later calls show the same whichever of the two was done.  The plain rendering
of a program is one of its renderings, and reads back as the program.
-/
theorem parsing_inverts_rendering :
    (∀ text cells, Renders text.toList cells →
      parse text = .ok ⟨cells⟩ ∧
        ∀ machine : Machine, machine.load text = (.ok (), machine.start ⟨cells⟩) ∧
          ∀ limit later,
            (machine.passages ((limit, .load text) :: later)).map Machine.Passage.sight =
              (machine.passages ((limit, .start ⟨cells⟩) :: later)).map Machine.Passage.sight) ∧
      ∀ program : Program,
        Renders program.render.toList program.cells ∧ parse program.render = .ok program := by
  refine ⟨fun text cells renders => ?_, fun program => ?_⟩
  · have parsed := parse_of_renders renders
    exact ⟨parsed, fun machine => ⟨machine.load_of_parse parsed, machine.sights_of_parse parsed⟩⟩
  · exact ⟨renders_render program, parse_of_renders (renders_render program)⟩

theorem blank_singleton {char : Char} (isBlank : Text.isBlank char = true) : Text.Blank [char] := by
  intro other listed
  rw [List.mem_singleton.1 listed]
  exact isBlank

def spaced : List (Layout × Int) :=
  [(⟨true, 2, ['\t'], [' '], blank_singleton (by decide), blank_singleton (by decide)⟩, 7),
    (⟨false, 2, [], ['\n'], nofun, blank_singleton (by decide)⟩, -12)]

theorem parsing_inverts_rendering_spaced :
    parse "\t+007 ,-0012\n" = .ok ⟨[7, -12]⟩ ∧
      (∀ machine : Machine,
        machine.load "\t+007 ,-0012\n" = (.ok (), machine.start ⟨[7, -12]⟩)) ∧
      parse (Program.mk [7, -12]).render = .ok ⟨[7, -12]⟩ := by
  have text : layOut spaced = "\t+007 ,-0012\n".toList := by
    decide +kernel
  have renders : Renders "\t+007 ,-0012\n".toList [7, -12] := by
    rw [← text]
    exact .laidOut spaced
  obtain ⟨reads, rereads⟩ := parsing_inverts_rendering
  obtain ⟨parsed, loads⟩ := reads _ _ renders
  exact ⟨parsed, fun machine => (loads machine).1, (rereads ⟨[7, -12]⟩).2⟩

end Program

end Intcode
