import StepPulse.Block.Queue
import StepPulse.Segment.SlicedBlock

/-! Blocks are taken up one after the other and cut into segments while the ring has room. -/

namespace StepPulse

structure BlockSource where
  block? : UInt64 → Option Block
  breakpoint : UInt64 → Except ClampFault UInt32

def BlockQueue.source {capacity : Nat} (q : BlockQueue capacity) : BlockSource :=
  { block? := q.block?, breakpoint := q.breakpoint }

/-- One segment less: what is left of the block, and how many step events were cut off. A segment
has at least one event as long as any is left, and none reaches across the breakpoint. -/
def SlicedBlock.cut (b : SlicedBlock) (wanted : UInt32) : SlicedBlock × UInt32 :=
  let steps := min (max wanted 1) b.remaining
  let steps := if 0 < b.decelerateAfter then min steps b.decelerateAfter else steps
  ({ b with
      remaining := b.remaining - steps
      decelerateAfter := Saturating.sub b.decelerateAfter steps }, steps)

namespace SlicedBlock

variable (b : SlicedBlock) (wanted : UInt32)

theorem cut_steps_le : (b.cut wanted).2 ≤ b.remaining := by
  simp only [cut, UInt32.le_iff_toNat_le]
  split <;> simp only [Saturating.toNat_min] <;> omega

theorem toNat_remaining_cut :
    (b.cut wanted).1.remaining.toNat + (b.cut wanted).2.toNat = b.remaining.toNat := by
  have le := b.cut_steps_le wanted
  rw [show (b.cut wanted).1.remaining = b.remaining - (b.cut wanted).2 from rfl,
    UInt32.toNat_sub_of_le _ _ le]
  rw [UInt32.le_iff_toNat_le] at le
  omega

theorem toNat_decelerateAfter_cut :
    (b.cut wanted).1.decelerateAfter.toNat =
      b.decelerateAfter.toNat - (b.cut wanted).2.toNat :=
  Saturating.toNat_sub _ _

theorem cut_steps_pos (left : 0 < b.remaining) : 0 < (b.cut wanted).2 := by
  have one : (1 : UInt32).toNat = 1 := rfl
  simp only [cut, UInt32.lt_iff_toNat_lt, UInt32.toNat_zero] at *
  split <;> simp only [Saturating.toNat_min, Saturating.toNat_max] <;> omega

end SlicedBlock

structure Pipeline where
  preparing : Bool := false
  number : UInt64 := 0
  segments : SegmentRing := {}
  blocks : SlicedBlockRing := {}
  deriving DecidableEq, Repr

namespace Pipeline

instance : Inhabited Pipeline := ⟨{}⟩

def restart (p : Pipeline) (number : UInt64) : Pipeline :=
  { p with preparing := false, number := number }

/-- Drop all segments and go on with the numbered block. Old contents stay behind unread. -/
def reset (p : Pipeline) (number : UInt64) : Pipeline :=
  { p.restart number with segments := p.segments.clear, blocks := p.blocks.reset }

def takeUp (source : BlockSource) (settings : Settings) (p : Pipeline) :
    Except ClampFault (Option Pipeline) :=
  if p.preparing then .ok (some p)
  else
    match source.block? p.number with
    | none => .ok none
    | some b =>
      match source.breakpoint p.number with
      | .error fault => .error fault
      | .ok decelerateAfter =>
        .ok (some
          { p with
            preparing := true
            blocks := p.blocks.start (SlicedBlock.ofBlock b settings decelerateAfter) })

def emit (sizing : Sizing) (settings : Settings) (p : Pipeline) : Pipeline × Bool :=
  let slot := p.blocks.current
  let block := p.blocks.get slot
  let (rest, steps) := block.cut (sizing block settings)
  let endsBlock := rest.remaining == 0
  let segment : Segment :=
    { steps := steps, slot := slot, endsBlock := endsBlock
      decelerates := block.decelerateAfter == 0 }
  let p := { p with blocks := p.blocks.set slot rest }
  match p.segments.push? segment with
  | none => (p, false)
  | some segments =>
    if endsBlock then
      ({ p with segments := segments, preparing := false, number := p.number + 1 }, true)
    else ({ p with segments := segments }, true)

/-- Emit until the ring is full or no block is left, at most `room` times. -/
def fill (source : BlockSource) (sizing : Sizing) (settings : Settings) :
    Nat → Pipeline → Except ClampFault (Pipeline × Nat)
  | 0, p => .ok (p, 0)
  | room + 1, p =>
    if p.segments.isFull then .ok (p, 0)
    else
      match takeUp source settings p with
      | .error fault => .error fault
      | .ok none => .ok (p, 0)
      | .ok (some p) =>
        match emit sizing settings p with
        | (p, false) => .ok (p, 0)
        | (p, true) =>
          match fill source sizing settings room p with
          | .error fault => .error fault
          | .ok (p, emitted) => .ok (p, emitted + 1)

def prepare (source : BlockSource) (sizing : Sizing) (settings : Settings) (p : Pipeline) :
    Except ClampFault (Pipeline × Nat) :=
  fill source sizing settings SegmentRing.capacity p

end Pipeline

end StepPulse
