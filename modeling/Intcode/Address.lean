/-!
# Addresses

The machine's address space has 2^64 cells.  An address is a position in it; arithmetic on
addresses is checked, so a sum that leaves the space is no address and never wraps around.
-/

namespace Intcode

structure Address where
  toNat : Nat
  isLt : toNat < 1 <<< 64
  deriving DecidableEq, Repr

namespace Address

abbrev count : Nat :=
  1 <<< 64

def zero : Address :=
  ⟨0, by decide⟩

def ofNat? (position : Nat) : Option Address :=
  if isLt : position < 1 <<< 64 then some ⟨position, isLt⟩ else none

/-- The address that an integer denotes: itself, if it is neither negative nor too large. -/
def ofInt? : Int → Option Address
  | .ofNat position => ofNat? position
  | .negSucc _ => none

def offset? (address : Address) (distance : Nat) : Option Address :=
  ofNat? (address.toNat + distance)

@[ext] theorem ext {first second : Address} (same : first.toNat = second.toNat) :
    first = second := by
  cases first
  cases second
  simp_all

theorem ofNat?_eq_some_iff {position : Nat} {address : Address} :
    ofNat? position = some address ↔ address.toNat = position := by
  unfold ofNat?
  constructor
  · intro found
    split at found
    · simpa using (congrArg toNat (Option.some.inj found)).symm
    · cases found
  · rintro rfl
    exact dif_pos address.isLt

theorem ofNat?_eq_none_iff {position : Nat} :
    ofNat? position = none ↔ 1 <<< 64 ≤ position := by
  rw [← Nat.not_lt]
  unfold ofNat?
  by_cases inside : position < 1 <<< 64
  · rw [dif_pos inside]
    exact ⟨fun absent => (nomatch absent), fun outside => absurd inside outside⟩
  · rw [dif_neg inside]
    exact ⟨fun _ => inside, fun _ => rfl⟩

/-- An integer denotes the address of the same value and no other. -/
theorem ofInt?_eq_some_iff {value : Int} {address : Address} :
    ofInt? value = some address ↔ (address.toNat : Int) = value := by
  cases value with
  | ofNat position =>
      simp only [ofInt?, ofNat?_eq_some_iff, Int.ofNat_eq_natCast]
      omega
  | negSucc magnitude =>
      simp only [ofInt?]
      constructor
      · intro found
        cases found
      · intro same
        omega

theorem ofInt?_eq_none_iff {value : Int} :
    ofInt? value = none ↔ value < 0 ∨ (1 <<< 64 : Nat) ≤ value := by
  cases value with
  | ofNat position =>
      simp only [ofInt?, ofNat?_eq_none_iff, Int.ofNat_eq_natCast]
      omega
  | negSucc magnitude =>
      simp only [ofInt?, true_iff]
      omega

theorem offset?_eq_some_iff {address next : Address} {distance : Nat} :
    address.offset? distance = some next ↔ next.toNat = address.toNat + distance :=
  ofNat?_eq_some_iff

end Address

end Intcode
