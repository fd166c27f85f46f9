/-!
The ring through which segments pass from preparation to execution. `head` and `next` belong to the
side that pushes, `tail` to the side that takes. One slot always stays free, so that equal indices
mean an empty ring. Released slots keep their content until they are written again. Seen through
`toList`, a well-formed ring is a bounded queue: a push appends, an advance drops the front.
-/

namespace StepPulse

structure Segment where
  steps : UInt32 := 0
  slot : Nat := 0
  endsBlock : Bool := false
  decelerates : Bool := false
  deriving DecidableEq, Repr, Inhabited

def Segment.kindText (s : Segment) : String :=
  match s.endsBlock, s.decelerates with
  | false, false => "noop"
  | true, false => "end-of-block"
  | false, true => "decel"
  | true, true => "decel-eob"

/-- Slots of the segment ring, and of the ring of block data beside it. -/
def ringSize : Nat := 10

theorem mod_ringSize_lt (index : Nat) : index % ringSize < ringSize :=
  Nat.mod_lt _ (by decide)

structure SegmentRing where
  slots : Vector Segment ringSize := Vector.replicate ringSize {}
  head : Nat := 0
  next : Nat := 1
  tail : Nat := 0
  deriving DecidableEq, Repr

namespace SegmentRing

instance : Inhabited SegmentRing := ⟨{}⟩

def capacity : Nat := ringSize - 1

def after (index : Nat) : Nat := (index + 1) % ringSize

def isEmpty (r : SegmentRing) : Bool := r.head == r.tail

def isFull (r : SegmentRing) : Bool := r.next == r.tail

def length (r : SegmentRing) : Nat := (r.head + ringSize - r.tail) % ringSize

def push? (r : SegmentRing) (s : Segment) : Option SegmentRing :=
  if r.isFull then none
  else some
    { r with slots := r.slots.setIfInBounds r.head s, head := r.next, next := after r.next }

def peek? (r : SegmentRing) : Option Segment :=
  if r.isEmpty then none else r.slots[r.tail]?

def advance (r : SegmentRing) : SegmentRing :=
  if r.isEmpty then r else { r with tail := after r.tail }

def clear (r : SegmentRing) : SegmentRing := { r with head := 0, next := 1, tail := 0 }

def slot (r : SegmentRing) (index : Nat) : Segment :=
  have bound := mod_ringSize_lt index
  r.slots[index % ringSize]

def toList (r : SegmentRing) : List Segment :=
  (List.range r.length).map fun i => r.slot (r.tail + i)

/-- The indices lie within the ring and `next` follows `head`, as every operation leaves them. -/
structure WellFormed (r : SegmentRing) : Prop where
  head_lt : r.head < ringSize
  tail_lt : r.tail < ringSize
  next_eq : r.next = after r.head

@[simp] theorem length_toList (r : SegmentRing) : r.toList.length = r.length := by
  simp [toList]

theorem length_lt (r : SegmentRing) : r.length < ringSize := mod_ringSize_lt _

theorem slot_setIfInBounds (r : SegmentRing) (index other : Nat) (s : Segment) :
    ({ r with slots := r.slots.setIfInBounds index s } : SegmentRing).slot other =
      if index = other % ringSize then s else r.slot other :=
  Vector.getElem_setIfInBounds (mod_ringSize_lt other)

namespace WellFormed

variable {r : SegmentRing}

theorem isEmpty_iff (wf : r.WellFormed) : r.isEmpty = true ↔ r.length = 0 := by
  have head := wf.head_lt
  have tail := wf.tail_lt
  simp only [isEmpty, length, beq_iff_eq, ringSize] at *
  omega

theorem isFull_iff (wf : r.WellFormed) : r.isFull = true ↔ r.length = capacity := by
  have head := wf.head_lt
  have tail := wf.tail_lt
  simp only [isFull, length, capacity, wf.next_eq, after, beq_iff_eq, ringSize] at *
  omega

protected theorem clear (r : SegmentRing) : r.clear.WellFormed := by
  constructor <;> simp [SegmentRing.clear, after, ringSize]

protected theorem advance (wf : r.WellFormed) : r.advance.WellFormed := by
  unfold SegmentRing.advance
  split
  · exact wf
  · exact ⟨wf.head_lt, mod_ringSize_lt _, wf.next_eq⟩

protected theorem push? (wf : r.WellFormed) {s : Segment} {r' : SegmentRing}
    (taken : r.push? s = some r') : r'.WellFormed := by
  simp only [SegmentRing.push?] at taken
  split at taken
  · contradiction
  · obtain rfl := Option.some.inj taken
    refine ⟨?_, wf.tail_lt, rfl⟩
    show r.next < ringSize
    rw [wf.next_eq]
    exact mod_ringSize_lt _

end WellFormed

@[simp] theorem toList_clear (r : SegmentRing) : r.clear.toList = [] := by
  simp [toList, length, clear, ringSize]

theorem peek?_eq_head? {r : SegmentRing} (wf : r.WellFormed) : r.peek? = r.toList.head? := by
  have empty := wf.isEmpty_iff
  unfold peek?
  split
  · next h => simp [toList, empty.mp h]
  · next h =>
    have positive : 0 < r.length := Nat.pos_of_ne_zero fun zero => h (empty.mpr zero)
    obtain ⟨n, hn⟩ := Nat.exists_eq_succ_of_ne_zero (Nat.ne_of_gt positive)
    have bound := wf.tail_lt
    simp [toList, hn, List.range_succ_eq_map, slot, Nat.mod_eq_of_lt bound, bound]

theorem toList_advance {r : SegmentRing} (wf : r.WellFormed) :
    r.advance.toList = r.toList.tail := by
  have empty := wf.isEmpty_iff
  unfold advance
  split
  · next h => simp [toList, empty.mp h]
  · next h =>
    have head := wf.head_lt
    have tail := wf.tail_lt
    have shorter : ({ r with tail := after r.tail } : SegmentRing).length + 1 = r.length := by
      have positive : r.length ≠ 0 := fun zero => h (empty.mpr zero)
      simp only [length, after, ringSize] at *
      omega
    rw [toList, toList, ← shorter, List.range_succ_eq_map]
    simp only [List.map_cons, List.tail_cons, List.map_map]
    apply List.map_congr_left
    intro i _
    have same : (after r.tail + i) % ringSize = (r.tail + (i + 1)) % ringSize := by
      simp only [after, ringSize]
      omega
    simp [slot, same]

theorem toList_push? {r r' : SegmentRing} (wf : r.WellFormed) {s : Segment}
    (taken : r.push? s = some r') : r'.toList = r.toList ++ [s] := by
  have full := wf.isFull_iff
  simp only [push?] at taken
  split at taken
  · contradiction
  · next room =>
    obtain rfl := Option.some.inj taken
    have head := wf.head_lt
    have tail := wf.tail_lt
    have bound := r.length_lt
    have notFull : r.length ≠ capacity := fun h => room (full.mpr h)
    have longer : (r.next + ringSize - r.tail) % ringSize = r.length + 1 := by
      simp only [length, capacity, wf.next_eq, after, ringSize] at *
      omega
    have place : r.head = (r.tail + r.length) % ringSize := by
      simp only [length, ringSize] at *
      omega
    have others : ∀ i < r.length, r.head ≠ (r.tail + i) % ringSize := by
      intro i
      simp only [length, ringSize] at *
      omega
    simp only [toList]
    rw [show SegmentRing.length { r with
      slots := r.slots.setIfInBounds r.head s, head := r.next, next := after r.next } =
        r.length + 1 from longer]
    rw [List.range_succ, List.map_append, List.map_singleton]
    congr 1
    · apply List.map_congr_left
      intro i member
      exact (slot_setIfInBounds r r.head (r.tail + i) s).trans
        (if_neg (others i (List.mem_range.mp member)))
    · exact congrArg (fun written => [written])
        ((slot_setIfInBounds r r.head (r.tail + r.length) s).trans (if_pos place))

theorem push?_eq_none_iff {r : SegmentRing} (wf : r.WellFormed) (s : Segment) :
    r.push? s = none ↔ r.toList.length = capacity := by
  rw [length_toList, ← wf.isFull_iff, push?]
  split <;> simp_all

end SegmentRing

end StepPulse
