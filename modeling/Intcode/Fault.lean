import Intcode.Address
import Intcode.Decimal
import Intcode.Phase
import Intcode.Text.Quoted

/-!
# Faults

Everything that can go wrong with a program or a machine, as data, and the one line of text for
each.
-/

namespace Intcode

inductive Operation where
  | run
  | enqueueInput
  deriving DecidableEq, Repr

namespace Operation

/-- An operation as a verb phrase, ready for "a machine". -/
def phrase : Operation → String
  | run => "run"
  | enqueueInput => "enqueue input for"

end Operation

/-- The reasons for which an operation is refused or a program stops short. -/
inductive Fault where
  /-- A piece of program text is not an integer. -/
  | malformedProgram (cell : Nat) (token : String)
  /-- An integer used as an address denotes none. -/
  | invalidAddress (value : Int)
  /-- A parameter, counted from one, has a mode digit it cannot have. -/
  | invalidAddressingMode (ip : Address) (parameter : Nat) (mode : Nat)
  /-- The low two digits of an instruction word are no opcode. -/
  | unknownOpcode (ip : Address) (opcode : Int)
  /-- The machine's phase rules the operation out. -/
  | invalidTransition (phase : Phase) (operation : Operation)
  deriving DecidableEq, Repr

namespace Fault

def message : Fault → String
  | malformedProgram cell token =>
      "malformed program: cell " ++ Decimal.text cell ++ " is "
        ++ String.ofList (Text.Quoted.encode token.toList) ++ ", not an integer"
  | invalidAddress value =>
      "invalid address " ++ Decimal.text value
  | invalidAddressingMode ip parameter mode =>
      "invalid addressing mode " ++ Decimal.text mode ++ " for parameter "
        ++ Decimal.text parameter ++ " at ip " ++ Decimal.text ip.toNat
  | unknownOpcode ip opcode =>
      "unknown opcode " ++ Decimal.text opcode ++ " at ip " ++ Decimal.text ip.toNat
  | invalidTransition phase operation =>
      "cannot " ++ operation.phrase ++ " a " ++ phase.name ++ " machine"

end Fault

namespace Address

/-- The address that an integer denotes, or the fault of an integer that denotes none. -/
def locate (value : Int) : Except Fault Address :=
  match ofInt? value with
  | some address => .ok address
  | none => .error (.invalidAddress value)

theorem locate_eq_ok_iff {value : Int} {address : Address} :
    locate value = .ok address ↔ (address.toNat : Int) = value := by
  rw [← ofInt?_eq_some_iff]
  cases found : ofInt? value <;> simp [locate, found]

/-- Locating fails with the integer itself, exactly when it lies outside the address space. -/
theorem locate_eq_error_iff {value : Int} {fault : Fault} :
    locate value = .error fault ↔
      (value < 0 ∨ (1 <<< 64 : Nat) ≤ value) ∧ fault = .invalidAddress value := by
  rw [← ofInt?_eq_none_iff]
  cases found : ofInt? value <;> simp [locate, found, eq_comm]

end Address

end Intcode
