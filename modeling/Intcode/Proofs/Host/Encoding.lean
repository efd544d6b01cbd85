import Intcode.Host.Bytes

/-!
# Texts and their bytes

Bytes are read as a text exactly when they are the bytes of that text, and a text has the bytes of
its characters one after the other.  The byte of a line feed occurs in no other character, so where
bytes are cut at it no character is cut.
-/

namespace Intcode

theorem readText_eq_ok_iff {bytes : ByteArray} {text : String} :
    readText bytes = .ok text ↔ bytes = text.toUTF8 := by
  constructor
  · intro read
    unfold readText at read
    split at read
    · next other decoded =>
      cases read
      unfold String.fromUTF8? at decoded
      split at decoded
      · cases decoded
        rfl
      · cases decoded
    · cases read
  · rintro rfl
    exact readText_toUTF8 text

theorem readText_eq_error {bytes : ByteArray} (undecodable : ∀ text : String, bytes ≠ text.toUTF8) :
    readText bytes = .error .invalidData := by
  cases read : readText bytes with
  | ok text => exact absurd (readText_eq_ok_iff.1 read) (undecodable text)
  | error error =>
      unfold readText at read
      split at read
      · cases read
      · exact read.symm

def encoded (text : String) : List UInt8 :=
  text.toUTF8.data.toList

theorem encoded_ofList (chars : List Char) :
    encoded (String.ofList chars) = chars.flatMap String.utf8EncodeChar := by
  simp [encoded, List.utf8Encode]

theorem mk_toArray_eq_toUTF8_iff {bytes : List UInt8} {text : String} :
    ByteArray.mk bytes.toArray = text.toUTF8 ↔ bytes = encoded text := by
  rw [encoded, ByteArray.ext_iff]
  constructor
  · intro same
    rw [← same]
  · rintro rfl
    rw [Array.toArray_toList]

/-- A byte below 128 stands for the character with that code and for no other. -/
theorem toNat_eq_of_mem_utf8EncodeChar
    {char : Char} {byte : UInt8} (listed : byte ∈ String.utf8EncodeChar char)
    (ascii : byte.toNat < 128) : char.toNat = byte.toNat := by
  have high {value : Nat} (least : 128 ≤ value) (inside : value < 256)
      (same : byte = UInt8.ofNat value) : char.toNat = byte.toNat := by
    rw [same, UInt8.toNat_ofNat', Nat.mod_eq_of_lt inside] at ascii
    exact absurd ascii (Nat.not_lt.2 least)
  revert listed
  fun_cases String.utf8EncodeChar char with
  | case1 value small =>
      intro listed
      rw [List.mem_singleton.1 listed, UInt8.toNat_ofNat',
        Nat.mod_eq_of_lt (Nat.lt_of_le_of_lt small (by decide))]
      rfl
  -- every byte of a longer sequence is at least 128
  | case2 value large small =>
      simp only [List.mem_cons, List.not_mem_nil, or_false]
      rintro (first | second)
      · exact high (by omega) (by omega) first
      · exact high (by omega) (by omega) second
  | case3 value _ _ small =>
      simp only [List.mem_cons, List.not_mem_nil, or_false]
      rintro (first | second | third)
      · exact high (by omega) (by omega) first
      · exact high (by omega) (by omega) second
      · exact high (by omega) (by omega) third
  | case4 value large =>
      simp only [List.mem_cons, List.not_mem_nil, or_false]
      rintro (first | second | third | fourth)
      · exact high (by omega) (by omega) first
      · exact high (by omega) (by omega) second
      · exact high (by omega) (by omega) third
      · exact high (by omega) (by omega) fourth

theorem utf8EncodeChar_lineFeed : String.utf8EncodeChar '\n' = [10] := by
  decide

theorem eq_lineFeed_of_mem {char : Char} (listed : 10 ∈ String.utf8EncodeChar char) :
    char = '\n' :=
  Char.toNat_inj.1 (toNat_eq_of_mem_utf8EncodeChar listed (by decide))

end Intcode
