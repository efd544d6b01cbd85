/-!
# Parameter modes

How a parameter is taken.  A parameter that is read may be the address of the value, the value
itself, or an address relative to the machine's base.  A parameter that is written through is an
address, so it has no immediate mode.
-/

namespace Intcode

inductive Mode where
  | position
  | immediate
  | relative
  deriving DecidableEq, Repr

namespace Mode

def digit : Mode → Nat
  | position => 0
  | immediate => 1
  | relative => 2

def ofDigit? : Nat → Option Mode
  | 0 => some position
  | 1 => some immediate
  | 2 => some relative
  | _ => none

theorem ofDigit?_eq_some_iff {digit : Nat} {mode : Mode} :
    ofDigit? digit = some mode ↔ digit = mode.digit := by
  constructor
  · intro found
    unfold ofDigit? at found
    split at found <;> cases found <;> rfl
  · rintro rfl
    cases mode <;> rfl

theorem ofDigit?_eq_none_iff {digit : Nat} : ofDigit? digit = none ↔ 2 < digit := by
  rcases digit with _ | _ | _ | digit <;> simp [ofDigit?]

end Mode

inductive TargetMode where
  | position
  | relative
  deriving DecidableEq, Repr

namespace TargetMode

def toMode : TargetMode → Mode
  | position => .position
  | relative => .relative

def ofDigit? : Nat → Option TargetMode
  | 0 => some position
  | 2 => some relative
  | _ => none

theorem ofDigit?_eq_some_iff {digit : Nat} {mode : TargetMode} :
    ofDigit? digit = some mode ↔ digit = mode.toMode.digit := by
  constructor
  · intro found
    unfold ofDigit? at found
    split at found <;> cases found <;> rfl
  · rintro rfl
    cases mode <;> rfl

theorem ofDigit?_eq_none_iff {digit : Nat} : ofDigit? digit = none ↔ digit = 1 ∨ 2 < digit := by
  rcases digit with _ | _ | _ | digit <;> simp [ofDigit?]

end TargetMode

end Intcode
