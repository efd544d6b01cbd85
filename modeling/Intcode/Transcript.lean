import Intcode.Machine.Run

/-!
# Transcripts

A machine that talks in text takes lines as character codes and answers with codes.  A transcript
is what one run put out: the codes in the ASCII range make up its text, and all other codes are its
answers.
-/

namespace Intcode

/-- The codes that a run put out, and the phase it ended in. -/
structure Transcript where
  codes : List Int
  phase : Phase
  deriving DecidableEq, Repr

namespace Transcript

def byte? : Int → Option UInt8
  | .ofNat value => if inside : value < UInt8.size then some (UInt8.ofNatLT value inside) else none
  | .negSucc _ => none

/-- The character that a code stands for, if the code fits into a byte and the byte is ASCII. -/
def character? (code : Int) : Option Char :=
  ((byte? code).filter (· < 128)).map fun byte => Char.ofNat byte.toNat

def characters (codes : List Int) : List Char :=
  codes.filterMap character?

def text (transcript : Transcript) : String :=
  String.ofList (characters transcript.codes)

def answers (transcript : Transcript) : List Int :=
  transcript.codes.filter fun code => (character? code).isNone

/-- A text without the prompt at its end.  A prompt goes once; a text that does not end with the
prompt stays. -/
def withoutPrompt (prompt text : List Char) : List Char :=
  if prompt.isSuffixOf text then text.take (text.length - prompt.length) else text

def valueLine (value : Int) : String :=
  Decimal.text value ++ "\n"

/-- What a reader is shown: the text without the prompt at its end, then each answer on a line. -/
def display (transcript : Transcript) (prompt : String) : List String :=
  String.ofList (withoutPrompt prompt.toList (characters transcript.codes))
    :: transcript.answers.map valueLine

theorem byte?_eq_some_iff {code : Int} {byte : UInt8} :
    byte? code = some byte ↔ (byte.toNat : Int) = code := by
  cases code with
  | ofNat value =>
      simp only [byte?, Int.ofNat_eq_natCast]
      constructor
      · intro found
        split at found
        · cases found
          rw [UInt8.toNat_ofNatLT]
        · cases found
      · intro same
        obtain rfl : byte.toNat = value := by omega
        rw [dif_pos byte.toNat_lt_size, UInt8.ofNatLT_toNat]
  | negSucc magnitude =>
      simp only [byte?]
      constructor
      · intro found
        cases found
      · intro same
        omega

theorem toNat_ofNat_of_ascii {value : Nat} (ascii : value < 128) :
    (Char.ofNat value).toNat = value := by
  have valid : value.isValidChar := .inl (Nat.lt_trans ascii (by decide))
  rw [Char.ofNat, dif_pos valid]
  rfl

/-- A code stands for the character of its own value, if that is an ASCII one. -/
theorem character?_eq_some_iff {code : Int} {char : Char} :
    character? code = some char ↔ (char.toNat : Int) = code ∧ code ≤ 127 := by
  simp only [character?, Option.map_eq_some_iff, Option.filter_eq_some_iff, byte?_eq_some_iff,
    decide_eq_true_iff, UInt8.lt_iff_toNat_lt]
  constructor
  · rintro ⟨byte, ⟨rfl, ascii⟩, rfl⟩
    rw [toNat_ofNat_of_ascii ascii]
    exact ⟨rfl, Int.ofNat_le.2 (Nat.le_of_lt_succ ascii)⟩
  · rintro ⟨rfl, ascii⟩
    have small : char.toNat < UInt8.size := Nat.lt_of_le_of_lt (Int.ofNat_le.1 ascii) (by decide)
    refine ⟨UInt8.ofNatLT char.toNat small, ⟨?_, ?_⟩, ?_⟩
    · rw [UInt8.toNat_ofNatLT]
    · rw [UInt8.toNat_ofNatLT]
      exact Nat.lt_succ_of_le (Int.ofNat_le.1 ascii)
    · rw [UInt8.toNat_ofNatLT, Char.ofNat_toNat]

theorem character?_eq_none_iff {code : Int} :
    character? code = none ↔ ¬ (0 ≤ code ∧ code ≤ 127) := by
  constructor
  · rintro absent ⟨nonnegative, ascii⟩
    have small : code.toNat < 128 := by omega
    have value := toNat_ofNat_of_ascii small
    have found : character? code = some (Char.ofNat code.toNat) :=
      character?_eq_some_iff.2 ⟨by omega, ascii⟩
    rw [absent] at found
    cases found
  · intro outside
    cases found : character? code with
    | none => rfl
    | some char =>
        obtain ⟨rfl, ascii⟩ := character?_eq_some_iff.1 found
        exact absurd ⟨Int.natCast_nonneg _, ascii⟩ outside

theorem characters_append (first second : List Int) :
    characters (first ++ second) = characters first ++ characters second :=
  List.filterMap_append

theorem withoutPrompt_append (prompt text : List Char) :
    withoutPrompt prompt (text ++ prompt) = text := by
  simp [withoutPrompt]

theorem withoutPrompt_of_ne
    {prompt text : List Char} (differs : ∀ front, text ≠ front ++ prompt) :
    withoutPrompt prompt text = text := by
  refine if_neg fun ends => ?_
  obtain ⟨front, same⟩ := List.isSuffixOf_iff_suffix.1 ends
  exact differs front same.symm

end Transcript

/-- The input codes of a line: its code points and a line feed. -/
def lineCodes (line : String) : List Int :=
  line.toList.map (fun char => (char.toNat : Int)) ++ [10]

theorem lineCodes_ne_nil (line : String) : lineCodes line ≠ [] := by
  simp [lineCodes]

namespace Machine

/-- Put values at the end of the input one after the other, up to the first that is refused. -/
def enqueueEach (machine : Machine) : List Int → Except Fault Unit × Machine
  | [] => (.ok (), machine)
  | value :: rest =>
      match machine.enqueue value with
      | (.error fault, after) => (.error fault, after)
      | (.ok (), after) => after.enqueueEach rest

def sendLine (machine : Machine) (line : String) : Except Fault Unit × Machine :=
  machine.enqueueEach (lineCodes line)

/-- Run and take the output as a transcript.  A fault leaves the output in the machine. -/
def runText (limit : Nat) (machine : Machine) : Option (Except Fault Transcript × Machine) :=
  (machine.run limit).map fun
    | (.error fault, after) => (.error fault, after)
    | (.ok phase, after) =>
        let (codes, drained) := after.drain
        (.ok ⟨codes, phase⟩, drained)

/-- A machine that takes one value takes them all. -/
theorem enqueueEach_of_not_faulted
    {machine : Machine} (sound : machine.phase ≠ .faulted) (values : List Int) :
    machine.enqueueEach values =
      (.ok (), { machine with channel := machine.channel.enqueueAll values }) := by
  induction values generalizing machine with
  | nil => rw [enqueueEach, Channel.enqueueAll_nil]
  | cons value rest ih =>
      have sound' : ({ machine with
          channel := machine.channel.enqueueAll [value] } : Machine).phase ≠ .faulted := sound
      rw [enqueueEach, enqueue, enqueueAll_of_not_faulted sound]
      simp only
      rw [ih sound', Channel.enqueueAll_enqueueAll, List.singleton_append]

/-- A machine that refuses the first value takes none. -/
theorem enqueueEach_of_faulted
    {machine : Machine} (faulted : machine.phase = .faulted) (value : Int) (rest : List Int) :
    machine.enqueueEach (value :: rest) =
      (.error (.invalidTransition .faulted .enqueueInput), machine) := by
  rw [enqueueEach, enqueue, enqueueAll_of_faulted faulted]

/-- A line is taken whole or not at all. -/
theorem sendLine_eq (machine : Machine) (line : String) :
    machine.sendLine line = machine.enqueueAll (lineCodes line) := by
  by_cases faulted : machine.phase = .faulted
  · obtain ⟨value, rest, codes⟩ := List.exists_cons_of_ne_nil (lineCodes_ne_nil line)
    rw [sendLine, enqueueAll_of_faulted faulted, codes, enqueueEach_of_faulted faulted]
  · rw [sendLine, enqueueAll_of_not_faulted faulted, enqueueEach_of_not_faulted faulted]

end Machine

end Intcode
