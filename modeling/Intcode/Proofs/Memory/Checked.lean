import Intcode.Proofs.Memory.Layout

/-!
# Memory in machine words

A write subtracts the length of the span from an address, adds one to an address, and replaces
values of the span by their positions.  Here each of these steps is checked: a difference must not
be negative, a sum must fit into a word of 64 bits, and a position must lie in the span as it is at
that moment.  Where the span is short enough for a machine to hold, no check of a write fails.
-/

namespace Intcode

def Address.last : Address :=
  ⟨2 ^ 64 - 1, by decide⟩

namespace Memory

inductive Trap where
  | underflow
  | overflow
  | outOfBounds
  deriving DecidableEq, Repr

def checkedSub (first second : Nat) : Except Trap Nat :=
  if second ≤ first then .ok (first - second) else .error .underflow

def checkedAdd (first second : Nat) : Except Trap Nat :=
  if first + second < 2 ^ 64 then .ok (first + second) else .error .overflow

def checkedSet (span : Array Int) (position : Nat) (value : Int) : Except Trap (Array Int) :=
  if position < span.size then .ok (span.setIfInBounds position value) else .error .outOfBounds

def absorb : List (Nat × Int) → Array Int → Except Trap (Array Int)
  | [], span => .ok span
  | (position, value) :: rest, span => do
      absorb rest (← checkedSet span position value)

/-- The memory whose span has a size, with the single cells below the size put into the span. -/
def checkedGrow (memory : Memory) (size : Nat) : Except Trap Memory := do
  let span ← absorb (covered memory.far size) (resize memory.span size)
  return ⟨span, memory.far.filter fun position _ => size ≤ position⟩

/-- The memory with one value replaced, where every step is checked. -/
def checkedWrite (memory : Memory) (address : Address) (value : Int) : Except Trap Memory := do
  if address.toNat < memory.span.size then
    return { memory with span := ← checkedSet memory.span address.toNat value }
  else if (← checkedSub address.toNat memory.span.size) ≤ reach then
    let grown ← memory.checkedGrow (← checkedAdd address.toNat 1)
    return { grown with span := ← checkedSet grown.span address.toNat value }
  else
    return { memory with far := memory.far.insert address.toNat value }

/-! ## Growing and writing -/

/-- Cells that lie in the span are put there. -/
theorem absorb_eq_ok {cells : List (Nat × Int)} {span : Array Int}
    (inside : ∀ cell ∈ cells, cell.1 < span.size) :
    absorb cells span = .ok (placed cells span) := by
  induction cells generalizing span with
  | nil => rfl
  | cons cell rest ih =>
      have first : checkedSet span cell.1 cell.2 = .ok (span.setIfInBounds cell.1 cell.2) :=
        if_pos (inside cell List.mem_cons_self)
      have kept : ∀ later ∈ rest, later.1 < (span.setIfInBounds cell.1 cell.2).size := by
        intro later listed
        rw [Array.size_setIfInBounds]
        exact inside later (List.mem_cons_of_mem _ listed)
      change (checkedSet span cell.1 cell.2).bind (absorb rest) = _
      rw [first]
      exact ih kept

/-- Where the single cells lie beyond the span, every step of making it longer passes its check. -/
theorem Apart.checkedGrow_eq_ok {memory : Memory} {size : Nat} (apart : memory.Apart)
    (longer : memory.span.size ≤ size) : memory.checkedGrow size = .ok (memory.grow size) := by
  have inside : ∀ cell ∈ covered memory.far size, cell.1 < (resize memory.span size).size := by
    rintro ⟨position, value⟩ listed
    rw [size_resize]
    exact (mem_covered_iff.1 listed).2
  rw [checkedGrow, absorb_eq_ok inside, ← apart.growStepwise_eq_grow longer]
  rfl

/--
Where the single cells lie beyond the span, and the span is no longer than a machine can hold, every
step of a write passes its check.
-/
theorem Apart.checkedWrite_eq_ok {memory : Memory} (apart : memory.Apart)
    (short : memory.span.size ≤ 2 ^ 63 - 1) (address : Address) (value : Int) :
    memory.checkedWrite address value = .ok (memory.write address value) := by
  unfold checkedWrite write
  split
  · next own =>
      rw [checkedSet, if_pos own]
      rfl
  · next behind =>
      rw [checkedSub, if_pos (Nat.le_of_not_lt behind)]
      simp only [bind, Except.bind]
      split
      · next near =>
          rw [reach] at near
          have grown : address.toNat < (memory.grow (address.toNat + 1)).span.size := by
            rw [size_span_grow]
            omega
          rw [checkedAdd, if_pos (by omega)]
          simp only
          rw [apart.checkedGrow_eq_ok (by omega)]
          simp only
          rw [checkedSet, if_pos grown]
          rfl
      · rfl

/-! ## The extent -/

section LaidOut

variable {cells : List Int} {written : List Address} {memory : Memory}

/-- Unless the last address was written, the extent is one past the highest cell. -/
theorem LaidOut.extent_of_not_mem_last (laidOut : LaidOut cells written memory)
    (short : memory.span.size ≤ 2 ^ 63 - 1) (unwritten : Address.last ∉ written) :
    memory.extent = max cells.length (Call.pastHighest written) := by
  have made := laidOut.length_le
  have below : Call.pastHighest written ≤ 2 ^ 64 - 1 := by
    apply Call.pastHighest_le_iff.2
    intro address listed
    have inside : address.toNat < 2 ^ 64 := address.isLt
    have apart : address.toNat ≠ 2 ^ 64 - 1 := by
      intro same
      have last : address = Address.last := Address.ext same
      rw [last] at listed
      exact unwritten listed
    omega
  rw [laidOut.extent_eq (by omega)]
  omega

/-- Where the last address was written, the extent is capped. -/
theorem LaidOut.extent_of_mem_last (laidOut : LaidOut cells written memory)
    (short : memory.span.size ≤ 2 ^ 63 - 1) (listed : Address.last ∈ written) :
    memory.extent = 2 ^ 64 - 1 := by
  have above : 2 ^ 64 - 1 < Call.pastHighest written := Call.lt_pastHighest listed
  rw [laidOut.extent_eq (by omega)]
  omega

end LaidOut

end Memory

end Intcode
