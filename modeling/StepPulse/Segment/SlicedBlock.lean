import StepPulse.Block.Basic
import StepPulse.Segment.Ring

namespace StepPulse

structure SlicedBlock where
  /-- Step events not yet handed out in a segment. -/
  remaining : UInt32 := 0
  /-- Step events left before deceleration starts. -/
  decelerateAfter : UInt32 := 0
  rates : Rates := {}
  deriving DecidableEq, Repr

namespace SlicedBlock

instance : Inhabited SlicedBlock := ⟨{}⟩

def ofBlock (b : Block) (s : Settings) (decelerateAfter : UInt32) : SlicedBlock :=
  { remaining := b.events, decelerateAfter := decelerateAfter, rates := Rates.ofBlock b s }

end SlicedBlock

abbrev Sizing := SlicedBlock → Settings → UInt32

def Sizing.fixed : Sizing := fun _ s => s.segmentStepCap

/-- The entry of a new block is the one after the entry written last. -/
structure SlicedBlockRing where
  entries : Vector SlicedBlock ringSize := Vector.replicate ringSize {}
  current : Nat := 0
  deriving DecidableEq, Repr

namespace SlicedBlockRing

instance : Inhabited SlicedBlockRing := ⟨{}⟩

def get (r : SlicedBlockRing) (index : Nat) : SlicedBlock :=
  have bound := mod_ringSize_lt index
  r.entries[index % ringSize]

def set (r : SlicedBlockRing) (index : Nat) (b : SlicedBlock) : SlicedBlockRing :=
  { r with entries := r.entries.set (index % ringSize) b (mod_ringSize_lt index) }

def start (r : SlicedBlockRing) (b : SlicedBlock) : SlicedBlockRing :=
  let moved := { r with current := (r.current + 1) % ringSize }
  moved.set moved.current b

def reset (r : SlicedBlockRing) : SlicedBlockRing := { r with current := 0 }

theorem get_set (r : SlicedBlockRing) (index other : Nat) (b : SlicedBlock) :
    (r.set index b).get other =
      if index % ringSize = other % ringSize then b else r.get other :=
  Vector.getElem_set (mod_ringSize_lt index) (mod_ringSize_lt other)

theorem current_start (r : SlicedBlockRing) (b : SlicedBlock) :
    (r.start b).current = (r.current + 1) % ringSize := rfl

theorem get_start (r : SlicedBlockRing) (b : SlicedBlock) (index : Nat) :
    (r.start b).get index =
      if (r.current + 1) % ringSize = index % ringSize then b else r.get index := by
  have written :=
    get_set { r with current := (r.current + 1) % ringSize } ((r.current + 1) % ringSize) index b
  rw [Nat.mod_mod] at written
  exact written

end SlicedBlockRing

end StepPulse
