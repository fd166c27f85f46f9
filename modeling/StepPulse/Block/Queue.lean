import StepPulse.Block.Basic
import StepPulse.Error

/-! A bounded queue of blocks, numbered one after the other by words that wrap. -/

namespace StepPulse

structure BlockQueue (capacity : Nat) where
  blocks : List Block := []
  tail : UInt64 := 0
  deriving Repr, Inhabited

namespace BlockQueue

variable {capacity : Nat}

def length (q : BlockQueue capacity) : Nat := q.blocks.length

def isEmpty (q : BlockQueue capacity) : Bool := q.blocks.isEmpty

def isFull (q : BlockQueue capacity) : Bool := capacity ≤ q.length

def push (q : BlockQueue capacity) (b : Block) :
    Except BlockError (UInt64 × BlockQueue capacity) :=
  if b.events = 0 then .error .empty
  else if q.isFull then .error .queueFull
  else .ok (q.tail + UInt64.ofNat q.length, { q with blocks := q.blocks ++ [b] })

def discard (q : BlockQueue capacity) : BlockQueue capacity :=
  match q.blocks with
  | [] => q
  | _ :: rest => { blocks := rest, tail := q.tail + 1 }

def clear (q : BlockQueue capacity) : BlockQueue capacity :=
  { blocks := [], tail := q.tail + UInt64.ofNat q.length }

def current? (q : BlockQueue capacity) : Option Block := q.blocks.head?

def block? (q : BlockQueue capacity) (number : UInt64) : Option Block :=
  q.blocks[(number - q.tail).toNat]?

/-- The square of the speed at which the next block is entered: the machine comes to rest when
there is none. -/
def exitSquared (q : BlockQueue capacity) (number : UInt64) : Float32 :=
  ((q.block? (number + 1)).map Block.entrySquared).getD 0.0

/-- Step events of the numbered block before deceleration; 0 when it is not queued. -/
def breakpoint (q : BlockQueue capacity) (number : UInt64) : Except ClampFault UInt32 :=
  match q.block? number with
  | none => .ok 0
  | some b => b.decelerateAfter (q.exitSquared number)

@[simp] theorem blocks_discard (q : BlockQueue capacity) : q.discard.blocks = q.blocks.tail := by
  unfold discard
  split <;> simp_all

theorem discard_of_planned {q : BlockQueue capacity} {b : Block} {blocks : List Block}
    (planned : q.blocks = b :: blocks) : q.discard = { blocks := blocks, tail := q.tail + 1 } := by
  rw [discard, planned]

@[simp] theorem block?_tail (q : BlockQueue capacity) : q.block? q.tail = q.current? := by
  simp [block?, current?, List.head?_eq_getElem?]

theorem block?_add (q : BlockQueue capacity) {j : Nat} (fits : j < UInt64.size) :
    q.block? (q.tail + UInt64.ofNat j) = q.blocks[j]? := by
  have back : q.tail + UInt64.ofNat j - q.tail = UInt64.ofNat j := by
    rw [UInt64.add_comm, UInt64.add_sub_cancel]
  rw [block?, back, UInt64.toNat_ofNat_of_lt' fits]

theorem push_eq_ok_iff {q q' : BlockQueue capacity} {b : Block} {number : UInt64} :
    q.push b = .ok (number, q') ↔
      b.events ≠ 0 ∧ q.length < capacity ∧ number = q.tail + UInt64.ofNat q.length ∧
        q' = { q with blocks := q.blocks ++ [b] } := by
  simp only [push, isFull, decide_eq_true_eq]
  split
  · simp_all
  · split
    · next full => simp [Nat.not_lt.mpr full]
    · next empty room => simp [empty, Nat.not_le.mp room, eq_comm]

end BlockQueue

end StepPulse
