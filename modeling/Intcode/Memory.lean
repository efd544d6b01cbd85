import Std.Data.TreeMap
import Intcode.Fault

/-!
# Memory

A memory has a cell at every address; a cell that was never written reads as zero.  The cells from
address zero on form a contiguous span, and cells far beyond it are kept one by one.  A write close
to the end of the span extends it; the span then takes over the single cells that it covers.

`grow` does this at once, and keeps every value wherever the single cells lie.  `growStepwise` is
the loop: zeros are appended, and then the single cells are put in one after the other.  The two
agree where the single cells lie beyond the span, as they do in every memory that is made from a
list by writes.
-/

namespace Intcode

/-- The stored cells: a contiguous span, and single cells by address. -/
structure Memory where
  span : Array Int
  far : Std.TreeMap Nat Int

namespace Memory

/-- A write at most this far beyond the end of the span extends the span. -/
def reach : Nat :=
  65536

def empty : Memory :=
  ⟨#[], ∅⟩

def ofList (cells : List Int) : Memory :=
  ⟨cells.toArray, ∅⟩

def get? (memory : Memory) (address : Address) : Option Int :=
  memory.span[address.toNat]? <|> memory.far[address.toNat]?

/-- The value at an address: that of the stored cell, else zero. -/
def read (memory : Memory) (address : Address) : Int :=
  (memory.get? address).getD 0

/-- The cells by which a span grows from one size to another: the single cells that it takes over,
and zero elsewhere. -/
def extension (far : Std.TreeMap Nat Int) (old new : Nat) : Array Int :=
  Array.ofFn fun index : Fin (new - old) => far.getD (old + index) 0

/-- The memory whose span has at least the given size, with the same value at each address. -/
def grow : Memory → Nat → Memory
  | ⟨span, far⟩, size =>
      ⟨span ++ extension far span.size size, far.filter fun position _ => size ≤ position⟩

/-- A span cut off at a size, or filled up to it with zeros. -/
def resize (span : Array Int) (size : Nat) : Array Int :=
  span.take size ++ Array.replicate (size - span.size) 0

def covered (far : Std.TreeMap Nat Int) (size : Nat) : List (Nat × Int) :=
  far.toList.filter fun cell => cell.1 < size

/-- The span after single cells were put into it, wherever they lie. -/
def placed (cells : List (Nat × Int)) (span : Array Int) : Array Int :=
  cells.foldl (fun span cell => span.setIfInBounds cell.1 cell.2) span

/-- Growing step by step: the span gets its new size, and then every single cell below that size is
put into it. -/
def growStepwise (memory : Memory) (size : Nat) : Memory :=
  ⟨placed (covered memory.far size) (resize memory.span size),
    memory.far.filter fun position _ => size ≤ position⟩

def setSpan : Memory → Nat → Int → Memory
  | ⟨span, far⟩, position, value => ⟨span.setIfInBounds position value, far⟩

def write (memory : Memory) (address : Address) (value : Int) : Memory :=
  if address.toNat < memory.span.size then
    memory.setSpan address.toNat value
  else if address.toNat - memory.span.size ≤ reach then
    (memory.grow (address.toNat + 1)).setSpan address.toNat value
  else
    { memory with far := memory.far.insert address.toNat value }

def readAt (memory : Memory) (value : Int) : Except Fault Int :=
  (Address.locate value).map memory.read

def writeAt (memory : Memory) (target value : Int) : Except Fault Memory :=
  (Address.locate target).map (memory.write · value)

/-- One past the highest stored cell, capped at the highest address. -/
def extent (memory : Memory) : Nat :=
  match memory.far.maxKey? with
  | some highest => min (highest + 1) (1 <<< 64 - 1)
  | none => memory.span.size

def isEmpty (memory : Memory) : Bool :=
  memory.span.isEmpty && memory.far.isEmpty

def cells (memory : Memory) : List Int :=
  memory.span.toList

def nonzero (memory : Memory) : List (Nat × Int) :=
  memory.cells.zipIdx.filterMap fun (value, position) =>
    if value = 0 then none else some (position, value)

theorem read_ofList (cells : List Int) (address : Address) :
    (ofList cells).read address = cells[address.toNat]?.getD 0 := by
  simp [read, get?, ofList]

theorem size_span_grow (memory : Memory) (size : Nat) :
    (memory.grow size).span.size = max memory.span.size size := by
  simp only [grow, extension, Array.size_append, Array.size_ofFn]
  omega

/-- Growing changes no value. -/
theorem read_grow (memory : Memory) (size : Nat) (address : Address) :
    (memory.grow size).read address = memory.read address := by
  obtain ⟨span, far⟩ := memory
  simp only [read, get?, grow, extension]
  rw [Array.getElem?_append, Array.getElem?_ofFn, Std.TreeMap.getElem?_filter']
  by_cases inSpan : address.toNat < span.size
  · rw [if_pos inSpan, Array.getElem?_eq_getElem inSpan]
    rfl
  · rw [if_neg inSpan, Array.getElem?_eq_none (Nat.le_of_not_lt inSpan)]
    by_cases inside : address.toNat < size
    · have shifted : span.size + (address.toNat - span.size) = address.toNat := by omega
      rw [dif_pos (by omega)]
      simp [shifted, Std.TreeMap.getD_eq_getD_getElem?]
    · have beyond : size ≤ address.toNat := Nat.le_of_not_lt inside
      rw [dif_neg (by omega)]
      cases far[address.toNat]? <;> simp [Option.filter, beyond]

/-! ## Growing step by step -/

@[simp] theorem size_placed (cells : List (Nat × Int)) (span : Array Int) :
    (placed cells span).size = span.size := by
  induction cells generalizing span with
  | nil => rfl
  | cons cell rest ih => exact (ih _).trans Array.size_setIfInBounds

theorem getElem?_placed_of_apart {cells : List (Nat × Int)} {span : Array Int} {position : Nat}
    (apart : ∀ cell ∈ cells, cell.1 ≠ position) :
    (placed cells span)[position]? = span[position]? := by
  induction cells generalizing span with
  | nil => rfl
  | cons cell rest ih =>
      have others : ∀ later ∈ rest, later.1 ≠ position :=
        fun later listed => apart later (List.mem_cons_of_mem _ listed)
      exact (ih others).trans
        (Array.getElem?_setIfInBounds_ne (apart cell List.mem_cons_self))

theorem getElem?_placed_of_mem {cells : List (Nat × Int)} {span : Array Int} {position : Nat}
    {value : Int} (distinct : cells.Pairwise fun first second => first.1 ≠ second.1)
    (listed : (position, value) ∈ cells) (inside : position < span.size) :
    (placed cells span)[position]? = some value := by
  induction cells generalizing span with
  | nil => cases listed
  | cons cell rest ih =>
      obtain ⟨apart, others⟩ := List.pairwise_cons.1 distinct
      rcases List.mem_cons.1 listed with rfl | later
      · refine (getElem?_placed_of_apart fun other found => (apart other found).symm).trans ?_
        exact Array.getElem?_setIfInBounds_self_of_lt inside
      · exact ih others later (by rwa [Array.size_setIfInBounds])

theorem size_resize (span : Array Int) (size : Nat) : (resize span size).size = size := by
  simp only [resize, Array.take_eq_extract, Array.size_append, Array.size_extract,
    Array.size_replicate]
  omega

/-- Where a span is filled up, its own values are kept and zeros follow them. -/
theorem getElem?_resize {span : Array Int} {size position : Nat} (longer : span.size ≤ size)
    (inside : position < size) :
    (resize span size)[position]? = some (span[position]?.getD 0) := by
  have whole : span.take size = span := by
    rw [Array.take_eq_extract, Array.extract_eq_self_of_le longer]
  rw [resize, whole, Array.getElem?_append]
  split
  · next own => rw [Array.getElem?_eq_getElem own, Option.getD_some]
  · next behind =>
      rw [Array.getElem?_replicate, if_pos (by omega),
        Array.getElem?_eq_none (Nat.le_of_not_lt behind), Option.getD_none]

theorem mem_covered_iff {far : Std.TreeMap Nat Int} {size position : Nat} {value : Int} :
    (position, value) ∈ covered far size ↔ far[position]? = some value ∧ position < size := by
  rw [covered, List.mem_filter, decide_eq_true_eq, Std.TreeMap.mem_toList_iff_getElem?_eq_some]

theorem pairwise_covered (far : Std.TreeMap Nat Int) (size : Nat) :
    (covered far size).Pairwise fun first second => first.1 ≠ second.1 := by
  apply List.Pairwise.filter
  exact far.distinct_keys_toList.imp fun apart same => apart (Nat.compare_eq_eq.2 same)

/-- The values of a span that was extended, and those behind it. -/
theorem getElem?_append_extension {span : Array Int} {size position : Nat}
    (far : Std.TreeMap Nat Int) (inside : position < size) :
    (span ++ extension far span.size size)[position]? =
      some (span[position]?.getD (far.getD position 0)) := by
  rw [Array.getElem?_append]
  split
  · next own => rw [Array.getElem?_eq_getElem own, Option.getD_some]
  · next behind =>
      have shifted : span.size + (position - span.size) = position := by omega
      rw [extension, Array.getElem?_ofFn, dif_pos (by omega),
        Array.getElem?_eq_none (Nat.le_of_not_lt behind), Option.getD_none]
      simp only [shifted]

/-- The single cells lie beyond the span. -/
def Apart (memory : Memory) : Prop :=
  ∀ position ∈ memory.far, memory.span.size ≤ position

/-- A longer span with the single cells put into it is the span extended by them. -/
theorem Apart.placed_covered {span : Array Int} {far : Std.TreeMap Nat Int} {size : Nat}
    (apart : Apart ⟨span, far⟩) (longer : span.size ≤ size) :
    placed (covered far size) (resize span size) = span ++ extension far span.size size := by
  apply Array.ext_getElem?
  intro position
  -- below the size a value is that of a single cell, or else one of the span or a zero behind it
  by_cases inside : position < size
  · rw [getElem?_append_extension far inside, Std.TreeMap.getD_eq_getD_getElem?]
    cases single : far[position]? with
    | some value =>
        have listed : position ∈ far := Std.TreeMap.mem_iff_isSome_getElem?.2 (by rw [single]; rfl)
        rw [getElem?_placed_of_mem (pairwise_covered far size)
          (mem_covered_iff.2 ⟨single, inside⟩) (by rwa [size_resize]),
          Array.getElem?_eq_none (apart position listed), Option.getD_none, Option.getD_some]
    | none =>
        have unlisted : ∀ cell ∈ covered far size, cell.1 ≠ position := by
          rintro ⟨other, value⟩ listed rfl
          rw [(mem_covered_iff.1 listed).1] at single
          cases single
        rw [getElem?_placed_of_apart unlisted, getElem?_resize longer inside, Option.getD_none]
  · have past := Nat.le_of_not_lt inside
    rw [Array.getElem?_eq_none (by rwa [size_placed, size_resize]), Array.getElem?_eq_none]
    rw [Array.size_append, extension, Array.size_ofFn]
    omega

/-- Where the single cells lie beyond the span, growing is growing step by step. -/
theorem Apart.growStepwise_eq_grow {memory : Memory} {size : Nat} (apart : memory.Apart)
    (longer : memory.span.size ≤ size) : memory.growStepwise size = memory.grow size := by
  rw [growStepwise, apart.placed_covered longer]
  rfl

/-! ## Writing -/

/-- Replacing a value of the span changes the value there and nowhere else. -/
theorem read_setSpan
    {memory : Memory} {target : Address} (inSpan : target.toNat < memory.span.size) (value : Int)
    (address : Address) :
    (memory.setSpan target.toNat value).read address =
      if address = target then value else memory.read address := by
  simp only [read, get?, setSpan]
  rw [Array.getElem?_setIfInBounds]
  by_cases same : address = target
  · subst same
    simp [inSpan]
  · have apart : target.toNat ≠ address.toNat := fun equal => same (Address.ext equal.symm)
    simp [same, apart]

/-- A write changes the value at its address and nowhere else. -/
theorem read_write (memory : Memory) (target address : Address) (value : Int) :
    (memory.write target value).read address =
      if address = target then value else memory.read address := by
  by_cases inSpan : target.toNat < memory.span.size
  · rw [write, if_pos inSpan]
    exact read_setSpan inSpan value address
  · rw [write, if_neg inSpan]
    by_cases near : target.toNat - memory.span.size ≤ reach
    · have grown : target.toNat < (memory.grow (target.toNat + 1)).span.size := by
        rw [size_span_grow]
        omega
      rw [if_pos near, read_setSpan grown, read_grow]
    · have absent : memory.span[target.toNat]? = none :=
        Array.getElem?_eq_none (Nat.le_of_not_lt inSpan)
      rw [if_neg near]
      simp only [read, get?, Std.TreeMap.getElem?_insert, Nat.compare_eq_eq]
      by_cases same : address = target
      · subst same
        simp [absent]
      · have apart : target.toNat ≠ address.toNat := fun equal => same (Address.ext equal.symm)
        simp [same, apart]

end Memory

end Intcode
