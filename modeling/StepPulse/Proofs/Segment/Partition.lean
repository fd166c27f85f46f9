import Mathlib.Algebra.GroupWithZero.Nat
import StepPulse.Proofs.Segment.Layout

/-! The partition of a block into stretches, by a recursion on the position alone. -/

namespace StepPulse

structure Job where
  block : Block
  breakpoint : UInt32
  deriving DecidableEq, Repr

structure Stretch where
  steps : Nat
  endsBlock : Bool
  decelerates : Bool
  deriving DecidableEq, Repr

def Segment.stretch (s : Segment) : Stretch :=
  { steps := s.steps.toNat, endsBlock := s.endsBlock, decelerates := s.decelerates }

def covered (stretches : List Stretch) : Nat := (stretches.map Stretch.steps).sum

@[simp] theorem covered_cons (s : Stretch) (stretches : List Stretch) :
    covered (s :: stretches) = s.steps + covered stretches := by
  simp [covered]

namespace Job

def events (job : Job) : Nat := job.block.events.toNat

def entryAt (settings : Settings) (job : Job) (position : Nat) : SlicedBlock :=
  { remaining := UInt32.ofNat (job.events - position)
    decelerateAfter := UInt32.ofNat (job.breakpoint.toNat - position)
    rates := Rates.ofBlock job.block settings }

variable (sizing : Sizing) (settings : Settings) (job : Job)

def stepsAt (position : Nat) : Nat :=
  let wanted := (sizing (job.entryAt settings position) settings).toNat
  let steps := min (max wanted 1) (job.events - position)
  if position < job.breakpoint.toNat then min steps (job.breakpoint.toNat - position) else steps

def stretchAt (position : Nat) : Stretch :=
  { steps := job.stepsAt sizing settings position
    endsBlock := position + job.stepsAt sizing settings position == job.events
    decelerates := decide (job.breakpoint.toNat ≤ position) }

theorem stepsAt_le (position : Nat) :
    job.stepsAt sizing settings position ≤ job.events - position := by
  simp only [stepsAt]
  split <;> omega

theorem stepsAt_pos {position : Nat} (left : position < job.events) :
    0 < job.stepsAt sizing settings position := by
  simp only [stepsAt]
  split <;> omega

theorem stepsAt_le_breakpoint {position : Nat} (ahead : position < job.breakpoint.toNat) :
    position + job.stepsAt sizing settings position ≤ job.breakpoint.toNat := by
  simp only [stepsAt, if_pos ahead]
  omega

def partitionFrom (position : Nat) : List Stretch :=
  job.stretchAt sizing settings position ::
    if position + job.stepsAt sizing settings position < job.events then
      partitionFrom (position + job.stepsAt sizing settings position)
    else []
termination_by job.events - position
decreasing_by
  have left : position < job.events := by omega
  have positive := job.stepsAt_pos sizing settings left
  omega

def partition : List Stretch := job.partitionFrom sizing settings 0

end Job

/-- A stretch as it has to be where it begins, with the stretches that follow it: it is not empty
and does not reach across the breakpoint, it decelerates from the breakpoint on, and it ends the
block if it is the last. -/
structure Placed (job : Job) (position : Nat) (s : Stretch) (after : List Stretch) : Prop where
  positive : 0 < s.steps
  unbroken : position < job.breakpoint.toNat → position + s.steps ≤ job.breakpoint.toNat
  decelerates : s.decelerates = true ↔ job.breakpoint.toNat ≤ position
  ends : s.endsBlock = true ↔ after = []

structure Partitions (job : Job) (first : Nat) (stretches : List Stretch) : Prop where
  covers : first + covered stretches = job.events
  placed : ∀ {before after : List Stretch} {s : Stretch}, stretches = before ++ s :: after →
    Placed job (first + covered before) s after

namespace Partitions

variable {job : Job} {position : Nat} {s : Stretch} {stretches : List Stretch}

theorem nil (done : position = job.events) : Partitions job position [] := by
  constructor
  · exact done
  · intro before after s parts
    simp at parts

theorem cons (head : Placed job position s stretches)
    (rest : Partitions job (position + s.steps) stretches) :
    Partitions job position (s :: stretches) := by
  constructor
  · rw [covered_cons, ← Nat.add_assoc]
    exact rest.covers
  · intro before after s' parts
    cases before with
    | nil =>
        obtain ⟨rfl, rfl⟩ := List.cons.inj parts
        exact head
    | cons s'' before =>
        obtain ⟨rfl, later⟩ := List.cons.inj parts
        rw [covered_cons, ← Nat.add_assoc]
        exact rest.placed later

end Partitions

theorem SlicedBlock.eq_of_toNat {a b : SlicedBlock}
    (remaining : a.remaining.toNat = b.remaining.toNat)
    (decelerateAfter : a.decelerateAfter.toNat = b.decelerateAfter.toNat)
    (rates : a.rates = b.rates) : a = b := by
  cases a
  cases b
  simp only [UInt32.toNat_inj] at remaining decelerateAfter
  simp only [remaining, decelerateAfter, SlicedBlock.mk.injEq, true_and]
  exact rates

namespace Job

variable {sizing : Sizing} {settings : Settings} {job : Job} {position : Nat}

theorem placed_stretchAt (left : position < job.events) {after : List Stretch}
    (last : after = [] ↔ position + job.stepsAt sizing settings position = job.events) :
    Placed job position (job.stretchAt sizing settings position) after := by
  constructor
  · exact job.stepsAt_pos sizing settings left
  · exact job.stepsAt_le_breakpoint sizing settings
  · exact decide_eq_true_iff
  · rw [last]
    exact beq_iff_eq

theorem partitionFrom_ne_nil : job.partitionFrom sizing settings position ≠ [] := by
  rw [partitionFrom]
  exact List.cons_ne_nil _ _

theorem partitions_partitionFrom (left : position < job.events) :
    Partitions job position (job.partitionFrom sizing settings position) := by
  fun_induction partitionFrom sizing settings job position with
  | case1 position ih =>
      have bound := job.stepsAt_le sizing settings position
      by_cases more : position + job.stepsAt sizing settings position < job.events
      · rw [if_pos more]
        apply Partitions.cons
        · apply placed_stretchAt left
          exact iff_of_false partitionFrom_ne_nil (Nat.ne_of_lt more)
        · exact ih more more
      · rw [if_neg more]
        have done : position + job.stepsAt sizing settings position = job.events := by omega
        apply Partitions.cons
        · apply placed_stretchAt left
          exact iff_of_true rfl done
        · exact Partitions.nil done

theorem toNat_remaining_entryAt (settings : Settings) (job : Job) (position : Nat) :
    (job.entryAt settings position).remaining.toNat = job.events - position := by
  have bound := job.block.events.toNat_lt
  apply UInt32.toNat_ofNat_of_lt'
  simp only [events, UInt32.size] at *
  omega

theorem toNat_decelerateAfter_entryAt (settings : Settings) (job : Job) (position : Nat) :
    (job.entryAt settings position).decelerateAfter.toNat = job.breakpoint.toNat - position := by
  have bound := job.breakpoint.toNat_lt
  apply UInt32.toNat_ofNat_of_lt'
  simp only [UInt32.size] at *
  omega

theorem toNat_cut_entryAt (sizing : Sizing) (settings : Settings) (job : Job) (position : Nat) :
    ((job.entryAt settings position).cut (sizing (job.entryAt settings position) settings)).2.toNat =
      job.stepsAt sizing settings position := by
  have remaining := toNat_remaining_entryAt settings job position
  have ahead := toNat_decelerateAfter_entryAt settings job position
  have one : (1 : UInt32).toNat = 1 := rfl
  simp only [SlicedBlock.cut, stepsAt, UInt32.lt_iff_toNat_lt, UInt32.toNat_zero, ahead,
    Nat.sub_pos_iff_lt]
  split <;> simp only [Saturating.toNat_min, Saturating.toNat_max, remaining, ahead, one]

theorem cut_entryAt (sizing : Sizing) (settings : Settings) (job : Job) (position : Nat) :
    ((job.entryAt settings position).cut (sizing (job.entryAt settings position) settings)).1 =
      job.entryAt settings (position + job.stepsAt sizing settings position) := by
  have steps := toNat_cut_entryAt sizing settings job position
  apply SlicedBlock.eq_of_toNat
  · have left := (job.entryAt settings position).toNat_remaining_cut
      (sizing (job.entryAt settings position) settings)
    rw [steps, toNat_remaining_entryAt] at left
    rw [toNat_remaining_entryAt]
    omega
  · rw [SlicedBlock.toNat_decelerateAfter_cut, steps, toNat_decelerateAfter_entryAt,
      toNat_decelerateAfter_entryAt, Nat.sub_sub]
  · rfl

end Job

namespace Pipeline

variable {sizing : Sizing} {settings : Settings} {p : Pipeline} {job : Job} {position : Nat}

theorem inHand_started_job (settings : Settings) (job : Job) (p : Pipeline) :
    (p.started settings job.block job.breakpoint).inHand = job.entryAt settings 0 := by
  rw [inHand_started]
  apply SlicedBlock.eq_of_toNat
  · rw [Job.toNat_remaining_entryAt]
    rfl
  · rw [Job.toNat_decelerateAfter_entryAt]
    rfl
  · rfl

theorem stretch_nextSegment (within : position ≤ job.events)
    (hand : p.inHand = job.entryAt settings position) :
    (p.nextSegment sizing settings).stretch = job.stretchAt sizing settings position := by
  have bound := job.stepsAt_le sizing settings position
  have rest := Job.cut_entryAt sizing settings job position
  simp only [Segment.stretch, nextSegment, nextCut, hand, Job.stretchAt, Stretch.mk.injEq]
  refine ⟨Job.toNat_cut_entryAt sizing settings job position, ?_, ?_⟩
  · rw [rest, Bool.eq_iff_iff, beq_iff_eq, beq_iff_eq, ← UInt32.toNat_inj,
      Job.toNat_remaining_entryAt, UInt32.toNat_zero]
    omega
  · rw [Bool.eq_iff_iff, beq_iff_eq, decide_eq_true_iff, ← UInt32.toNat_inj,
      Job.toNat_decelerateAfter_entryAt, UInt32.toNat_zero, Nat.sub_eq_zero_iff_le]

theorem inHand_emitted_job (segments : SegmentRing) (hand : p.inHand = job.entryAt settings position) :
    (p.emitted sizing settings segments).inHand =
      job.entryAt settings (position + job.stepsAt sizing settings position) := by
  rw [inHand_emitted, nextCut, hand, Job.cut_entryAt]

end Pipeline

end StepPulse
