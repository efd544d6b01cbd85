import Mathlib.Algebra.Ring.Nat
import Intcode.Proofs.Memory.Contents

/-!
# The layout of a memory

Where the cells of a memory lie follows from the addresses that were written.  The single cells are
those that were written beyond the end of the span, and the span ends where the memory was made to
end or behind a cell that was written.  All that a memory tells about its cells agrees on this, in
whatever order they were written.
-/

namespace Intcode

namespace Memory

namespace Call

def target? : Call → Option Address
  | write address _ => some address
  | writeAt target _ => Address.ofInt? target
  | read _ | readAt _ | get _ => none

def targets (calls : List Call) : List Address :=
  calls.filterMap target?

theorem targets_append_singleton (calls : List Call) (call : Call) :
    targets (calls ++ [call]) = targets calls ++ call.target?.toList := by
  cases targeted : call.target? <;> simp [targets, targeted]

/-- One past the highest of some addresses, and zero for none. -/
def pastHighest (addresses : List Address) : Nat :=
  addresses.foldr (fun address past => max (address.toNat + 1) past) 0

theorem pastHighest_le_iff {addresses : List Address} {bound : Nat} :
    pastHighest addresses ≤ bound ↔ ∀ address ∈ addresses, address.toNat < bound := by
  induction addresses with
  | nil => simp [pastHighest]
  | cons address rest ih =>
      simp only [pastHighest, List.foldr_cons, Nat.max_le] at ih ⊢
      rw [ih, List.forall_mem_cons, Nat.succ_le_iff]

theorem lt_pastHighest {addresses : List Address} {address : Address}
    (listed : address ∈ addresses) : address.toNat < pastHighest addresses :=
  pastHighest_le_iff.1 (Nat.le_refl _) address listed

/-- The order of addresses makes no difference to the highest, nor how often each is listed. -/
theorem pastHighest_congr {first second : List Address}
    (same : ∀ address, address ∈ first ↔ address ∈ second) :
    pastHighest first = pastHighest second := by
  apply Nat.le_antisymm
  · exact pastHighest_le_iff.2 fun address listed => lt_pastHighest ((same address).1 listed)
  · exact pastHighest_le_iff.2 fun address listed => lt_pastHighest ((same address).2 listed)

end Call

/-! ## One call -/

/-- A call that writes to an address is a write of some value there. -/
theorem answer_of_target?_eq_some
    {call : Call} {address : Address} (targeted : call.target? = some address) (memory : Memory) :
    ∃ value, (memory.answer call).2 = memory.write address value := by
  cases call with
  | write target value =>
      cases targeted
      exact ⟨value, rfl⟩
  | writeAt target value =>
      refine ⟨value, ?_⟩
      have located : Address.locate target = .ok address :=
        Address.locate_eq_ok_iff.2 (Address.ofInt?_eq_some_iff.1 targeted)
      simp only [answer, writeAt, located, Except.map]
  | read other => cases targeted
  | readAt target => cases targeted
  | get other => cases targeted

/-- A call that writes to no address leaves the memory as it is. -/
theorem answer_of_target?_eq_none
    {call : Call} (untargeted : call.target? = none) (memory : Memory) :
    (memory.answer call).2 = memory := by
  cases call with
  | write target value => cases untargeted
  | writeAt target value =>
      have outside : Address.locate target = .error (.invalidAddress target) :=
        Address.locate_eq_error_iff.2 ⟨Address.ofInt?_eq_none_iff.1 untargeted, rfl⟩
      simp only [answer, writeAt, outside, Except.map]
  | read other => rfl
  | readAt target =>
      simp only [answer]
      cases memory.readAt target <;> rfl
  | get other => rfl

/-- A write extends the span to its address when that lies at the end of the span or within reach
of it, and otherwise leaves the span as long as it is. -/
theorem size_span_write (memory : Memory) (address : Address) (value : Int) :
    (memory.write address value).span.size =
      if memory.span.size ≤ address.toNat ∧ address.toNat ≤ memory.span.size + 65536 then
        address.toNat + 1
      else
        memory.span.size := by
  unfold write
  split
  · next inside =>
      rw [if_neg (by omega)]
      simp [setSpan]
  · next beyond =>
      split
      · next near =>
          rw [reach] at near
          rw [if_pos (by omega)]
          have grown := memory.size_span_grow (address.toNat + 1)
          simp only [setSpan, Array.size_setIfInBounds, grown]
          omega
      · next distant =>
          rw [reach] at distant
          rw [if_neg (by omega)]

theorem size_span_le_write (memory : Memory) (address : Address) (value : Int) :
    memory.span.size ≤ (memory.write address value).span.size := by
  rw [size_span_write]
  split <;> omega

/-- When the single cells lie beyond the span, those after a write are the earlier ones and the one
written, as far as the span has not taken them over. -/
theorem Apart.mem_far_write
    {memory : Memory} (apart : memory.Apart) (address : Address) (value : Int) (position : Nat) :
    position ∈ (memory.write address value).far ↔
      (memory.write address value).span.size ≤ position ∧
        (position ∈ memory.far ∨ position = address.toNat) := by
  rw [size_span_write]
  unfold write
  split
  · next inside =>
      rw [if_neg (by omega)]
      constructor
      · intro listed
        exact ⟨apart position listed, .inl listed⟩
      · rintro ⟨past, listed | rfl⟩
        · exact listed
        · omega
  · next outside =>
      split
      · next near =>
          rw [reach] at near
          rw [if_pos (by omega)]
          have kept : position ∈ ((memory.grow (address.toNat + 1)).setSpan address.toNat value).far ↔
              position ∈ memory.far ∧ address.toNat + 1 ≤ position := by
            simp [setSpan, grow, Std.TreeMap.mem_filter]
          rw [kept]
          constructor
          · rintro ⟨listed, past⟩
            exact ⟨past, .inl listed⟩
          · rintro ⟨past, listed | rfl⟩
            · exact ⟨listed, past⟩
            · omega
      · next distant =>
          rw [reach] at distant
          rw [if_neg (by omega)]
          simp only [Std.TreeMap.mem_insert, Nat.compare_eq_eq]
          constructor
          · rintro (rfl | listed)
            · exact ⟨by omega, .inr rfl⟩
            · exact ⟨apart position listed, .inl listed⟩
          · rintro ⟨-, listed | rfl⟩
            · exact .inr listed
            · exact .inl rfl

/-! ## Any calls -/

/-- What holds of a memory at first, and is kept by writes, holds after any calls.  What holds may
depend on the addresses that were written. -/
theorem after_induction
    (holds : List Address → Memory → Prop) {start : Memory} (first : holds [] start)
    (step : ∀ {written memory}, holds written memory →
      ∀ address value, holds (written ++ [address]) (memory.write address value))
    (calls : List Call) : holds (Call.targets calls) (start.after calls) := by
  induction calls using List.reverseRecOn with
  | nil => exact first
  | append_singleton calls call ih =>
      rw [after_append_singleton, Call.targets_append_singleton]
      cases targeted : call.target? with
      | none =>
          rw [answer_of_target?_eq_none targeted, Option.toList_none, List.append_nil]
          exact ih
      | some address =>
          obtain ⟨value, written⟩ := answer_of_target?_eq_some targeted (start.after calls)
          rw [written]
          exact step ih address value

/--
A memory is laid out for the cells that it was made with and the addresses that were written.  Its
single cells are those written beyond the span.  The span holds the cells that the memory was made
with, and ends with the last of them or with a cell that was written.
-/
structure LaidOut (cells : List Int) (written : List Address) (memory : Memory) : Prop where
  mem_far_iff (position : Nat) : position ∈ memory.far ↔
    memory.span.size ≤ position ∧ ∃ address ∈ written, address.toNat = position
  length_le : cells.length ≤ memory.span.size
  ends : memory.span.size = cells.length ∨
    ∃ address ∈ written, memory.span.size = address.toNat + 1

theorem LaidOut.apart
    {cells : List Int} {written : List Address} {memory : Memory}
    (laidOut : LaidOut cells written memory) : memory.Apart :=
  fun position listed => ((laidOut.mem_far_iff position).1 listed).1

theorem laidOut_ofList (cells : List Int) : LaidOut cells [] (ofList cells) where
  mem_far_iff position := by simp [ofList]
  length_le := by simp [ofList]
  ends := .inl (by simp [ofList])

theorem LaidOut.write
    {cells : List Int} {written : List Address} {memory : Memory}
    (laidOut : LaidOut cells written memory) (address : Address) (value : Int) :
    LaidOut cells (written ++ [address]) (memory.write address value) where
  mem_far_iff position := by
    have longer := memory.size_span_le_write address value
    rw [laidOut.apart.mem_far_write, laidOut.mem_far_iff]
    simp only [List.mem_append, List.mem_singleton]
    constructor
    · rintro ⟨past, ⟨-, other, listed, same⟩ | same⟩
      · exact ⟨past, other, .inl listed, same⟩
      · exact ⟨past, address, .inr rfl, same.symm⟩
    · rintro ⟨past, other, listed | rfl, same⟩
      · exact ⟨past, .inl ⟨by omega, other, listed, same⟩⟩
      · exact ⟨past, .inr same.symm⟩
  length_le := Nat.le_trans laidOut.length_le (memory.size_span_le_write address value)
  ends := by
    rw [size_span_write]
    split
    · exact .inr ⟨address, by simp, rfl⟩
    · rcases laidOut.ends with same | ⟨other, listed, same⟩
      · exact .inl same
      · exact .inr ⟨other, List.mem_append_left _ listed, same⟩

theorem laidOut_after (cells : List Int) (calls : List Call) :
    LaidOut cells (Call.targets calls) ((ofList cells).after calls) :=
  after_induction (LaidOut cells) (laidOut_ofList cells) (fun laidOut => laidOut.write) calls

theorem size_span_le_after (memory : Memory) (calls : List Call) :
    memory.span.size ≤ (memory.after calls).span.size :=
  after_induction (fun _ later => memory.span.size ≤ later.span.size) (Nat.le_refl _)
    (fun longer address value => Nat.le_trans longer (size_span_le_write _ address value)) calls

/-! ## What a memory tells about its cells -/

theorem length_cells (memory : Memory) : memory.cells.length = memory.span.size := by
  simp [Memory.cells]

theorem getElem?_cells
    {memory : Memory} {address : Address} (inside : address.toNat < memory.span.size) :
    memory.cells[address.toNat]? = some (memory.read address) := by
  simp [Memory.cells, read, get?, inside]

section LaidOut

variable {cells : List Int} {written : List Address} {memory : Memory}

/-- A cell is stored when it lies in the span or was written. -/
theorem LaidOut.isSome_get?_iff (laidOut : LaidOut cells written memory) (address : Address) :
    (memory.get? address).isSome = true ↔
      address.toNat < memory.span.size ∨ address ∈ written := by
  have listed : address.toNat ∈ memory.far ↔
      memory.span.size ≤ address.toNat ∧ address ∈ written := by
    rw [laidOut.mem_far_iff]
    constructor
    · rintro ⟨past, other, found, same⟩
      rw [← Address.ext same]
      exact ⟨by rw [same]; exact past, found⟩
    · rintro ⟨past, found⟩
      exact ⟨past, address, found, rfl⟩
  by_cases inside : address.toNat < memory.span.size
  · simp [get?, inside]
  · have absent : memory.span[address.toNat]? = none :=
      Array.getElem?_eq_none (Nat.le_of_not_lt inside)
    rw [get?, absent]
    change (memory.far[address.toNat]?).isSome = true ↔ _
    rw [Std.TreeMap.isSome_getElem?_iff_mem, listed]
    simp [inside, Nat.le_of_not_lt inside]

/-- Each address that was written lies in the span or is that of a single cell. -/
theorem LaidOut.lt_or_mem_far
    (laidOut : LaidOut cells written memory) {address : Address} (listed : address ∈ written) :
    address.toNat < memory.span.size ∨ address.toNat ∈ memory.far := by
  by_cases inside : address.toNat < memory.span.size
  · exact .inl inside
  · exact .inr ((laidOut.mem_far_iff _).2 ⟨Nat.le_of_not_lt inside, address, listed, rfl⟩)

theorem LaidOut.size_span_le
    (laidOut : LaidOut cells written memory) :
    memory.span.size ≤ max cells.length (Call.pastHighest written) := by
  rcases laidOut.ends with same | ⟨address, listed, same⟩
  · omega
  · have past := Call.lt_pastHighest listed
    omega

/--
The extent is one past the highest address that was written, or the number of cells that the memory
was made with if that is more, both capped at the highest address.
-/
theorem LaidOut.capped_extent_eq (laidOut : LaidOut cells written memory) :
    min memory.extent (2 ^ 64 - 1) =
      min (max cells.length (Call.pastHighest written)) (2 ^ 64 - 1) := by
  have made := laidOut.length_le
  have low := laidOut.size_span_le
  have cap : (1 <<< 64 - 1 : Nat) = 2 ^ 64 - 1 := rfl
  unfold extent
  split
  · next highest found =>
      obtain ⟨listed, highest_ge⟩ := Std.TreeMap.maxKey?_eq_some_iff_mem_and_forall.1 found
      obtain ⟨past, top, topWritten, same⟩ := (laidOut.mem_far_iff highest).1 listed
      have above := Call.lt_pastHighest topWritten
      have below : Call.pastHighest written ≤ highest + 1 := by
        apply Call.pastHighest_le_iff.2
        intro address addressWritten
        rcases laidOut.lt_or_mem_far addressWritten with inside | single
        · omega
        · have le := Nat.isLE_compare.1 (highest_ge _ single)
          omega
      omega
  · next none =>
      have empty := Std.TreeMap.isEmpty_iff_forall_not_mem.1 (Std.TreeMap.maxKey?_eq_none_iff.1 none)
      have below : Call.pastHighest written ≤ memory.span.size := by
        apply Call.pastHighest_le_iff.2
        intro address addressWritten
        rcases laidOut.lt_or_mem_far addressWritten with inside | single
        · exact inside
        · exact absurd single (empty _)
      omega

/-- The extent of a memory whose span has fewer cells than there are addresses is capped. -/
theorem extent_le (countable : memory.span.size < 2 ^ 64) : memory.extent ≤ 2 ^ 64 - 1 := by
  have cap : (1 <<< 64 - 1 : Nat) = 2 ^ 64 - 1 := rfl
  unfold extent
  split <;> omega

theorem LaidOut.extent_eq
    (laidOut : LaidOut cells written memory) (countable : memory.span.size < 2 ^ 64) :
    memory.extent = min (max cells.length (Call.pastHighest written)) (2 ^ 64 - 1) := by
  rw [← laidOut.capped_extent_eq, Nat.min_eq_left (extent_le countable)]

theorem LaidOut.isEmpty_iff (laidOut : LaidOut cells written memory) :
    memory.isEmpty = true ↔ cells = [] ∧ written = [] := by
  have made := laidOut.length_le
  rw [isEmpty, Bool.and_eq_true, Array.isEmpty_iff_size_eq_zero,
    Std.TreeMap.isEmpty_iff_forall_not_mem]
  constructor
  · rintro ⟨nothing, single⟩
    refine ⟨List.eq_nil_of_length_eq_zero (by omega), List.eq_nil_iff_forall_not_mem.2 ?_⟩
    intro address listed
    rcases laidOut.lt_or_mem_far listed with inside | far
    · omega
    · exact single _ far
  · rintro ⟨rfl, rfl⟩
    rcases laidOut.ends with nothing | ⟨address, listed, -⟩
    · refine ⟨nothing, fun position far => ?_⟩
      obtain ⟨-, address, listed, -⟩ := (laidOut.mem_far_iff position).1 far
      cases listed
    · cases listed

end LaidOut

/--
The cells of a memory lie where the writes have put them.  After any calls on a memory that was made
with cells, or on the empty one, which was made with none:

* the single cells are those written at or beyond the end of the span;
* a write extends the span to its address exactly when that lies at most 65536 cells beyond the end,
  and no call shortens it;
* a cell is stored exactly when it lies in the span or was written, and the cells of the span are
  listed with the values that they are read with;
* the extent, capped at the highest address, is that of the cells that the memory was made with and
  of the addresses that were written, and so does not depend on the order of the writes; it is
  capped itself when the cells of the span can be counted by an address, as those of every span in
  storage can;
* the memory is empty exactly when it was made without cells and nothing was written.
-/
theorem cells_lie_where_written (cells : List Int) (calls : List Call) :
    let memory := (ofList cells).after calls
    let written := Call.targets calls
    empty = ofList [] ∧
    (∀ position, position ∈ memory.far ↔
      memory.span.size ≤ position ∧ ∃ address ∈ written, address.toNat = position) ∧
    (∀ address value, (memory.write address value).span.size =
      if memory.span.size ≤ address.toNat ∧ address.toNat ≤ memory.span.size + 65536 then
        address.toNat + 1
      else
        memory.span.size) ∧
    (∀ further, memory.span.size ≤ (memory.after further).span.size) ∧
    (∀ address, (memory.get? address).isSome = true ↔
      address.toNat < memory.span.size ∨ address ∈ written) ∧
    memory.cells.length = memory.span.size ∧
    (∀ address, address.toNat < memory.span.size →
      memory.cells[address.toNat]? = some (memory.read address)) ∧
    min memory.extent (2 ^ 64 - 1) =
      min (max cells.length (Call.pastHighest written)) (2 ^ 64 - 1) ∧
    (memory.span.size < 2 ^ 64 →
      memory.extent = min (max cells.length (Call.pastHighest written)) (2 ^ 64 - 1)) ∧
    (∀ others, (∀ address, address ∈ Call.targets others ↔ address ∈ written) →
      min ((ofList cells).after others).extent (2 ^ 64 - 1) = min memory.extent (2 ^ 64 - 1)) ∧
    (memory.isEmpty = true ↔ cells = [] ∧ written = []) := by
  intro memory written
  have laidOut : LaidOut cells written memory := laidOut_after cells calls
  refine ⟨rfl, laidOut.mem_far_iff, memory.size_span_write, memory.size_span_le_after,
    laidOut.isSome_get?_iff, memory.length_cells, fun address => getElem?_cells,
    laidOut.capped_extent_eq, laidOut.extent_eq, ?_, laidOut.isEmpty_iff⟩
  intro others same
  rw [(laidOut_after cells others).capped_extent_eq, laidOut.capped_extent_eq,
    Call.pastHighest_congr same]

end Memory

end Intcode
