import StepPulse.Machine.Tick
import StepPulse.Proofs.Block.Bresenham
import StepPulse.Proofs.Block.Built
import StepPulse.Proofs.Lines

namespace StepPulse

open Machine

variable {H : Type} {capacity : Nat}

namespace Block

def sense (b : Block) (axis : Axis) : Int := if b.isNegative axis then -1 else 1

def due (b : Block) (axis : Axis) (n : Nat) : Nat :=
  stepsDue b.events.toNat (b.steps.get axis).toNat n

def stepsAt (b : Block) (axis : Axis) (n : Nat) : Bool :=
  counterAfter b.events.toNat (b.steps.get axis).toNat n - (b.steps.get axis).toNat < 0

theorem signedSteps_eq (b : Block) (axis : Axis) :
    b.signedSteps axis = b.sense axis * (b.steps.get axis).toNat := by
  simp only [signedSteps, sense]
  split
  · rw [Int.neg_one_mul]
  · rw [Int.one_mul]

theorem sense_ne_zero (b : Block) (axis : Axis) : b.sense axis ≠ 0 := by
  rw [sense]
  split <;> decide

variable {b : Block}

theorem due_succ (regular : b.Regular) (axis : Axis) (n : Nat) :
    b.due axis (n + 1) = b.due axis n + if b.stepsAt axis n then 1 else 0 := by
  rw [due, due, stepsDue_succ n (regular.steps_le axis) regular.eventful, stepsAt]
  simp only [decide_eq_true_eq]

theorem due_all (regular : b.Regular) (axis : Axis) :
    b.due axis b.events.toNat = (b.steps.get axis).toNat :=
  stepsDue_all regular.eventful _

theorem some_stepsAt (regular : b.Regular) (n : Nat) : ∃ axis, b.stepsAt axis n = true := by
  obtain ⟨axis, longest⟩ := regular.longest
  refine ⟨axis, decide_eq_true ?_⟩
  have below := counterAfter_lt b.events.toNat b.events.toNat n
  rw [longest]
  omega

end Block

theorem seed_eq {events : UInt32} (eventful : 0 < events.toNat) (steps : Nat) :
    ((events >>> 1).toNat : Int) = counterAfter events.toNat steps 0 := by
  rw [counterAfter_zero eventful, UInt32.toNat_shiftRight]
  exact congrArg Int.ofNat (Nat.shiftRight_one _)

/-- A block is active, and a number of its step events have taken place since it was loaded. -/
structure Poised (b : Block) (n : Nat) (m : Machine H capacity) : Prop where
  block : m.runtime.block = b.active
  counters : ∀ axis, m.runtime.counters.get axis =
    counterAfter b.events.toNat (b.steps.get axis).toNat n

def eventImage (b : Block) (n : Nat) : Lines :=
  Axis.all.foldl (fun image axis => if b.stepsAt axis n then image ||| Lines.step axis else image)
    b.directions.directionLines

theorem contains_eventImage (b : Block) (n : Nat) (axis : Axis) :
    (eventImage b n).contains (Lines.step axis) = b.stepsAt axis n := by
  have added := Lines.contains_step_addSteps (fun axis => b.stepsAt axis n = true) Axis.all
    b.directions.directionLines axis
  rw [Lines.contains_step_directionLines, Bool.false_or] at added
  calc (eventImage b n).contains (Lines.step axis)
    _ = decide (axis ∈ Axis.all ∧ b.stepsAt axis n = true) := added
    _ = b.stepsAt axis n := by simp

namespace Poised

variable (rig : Rig H) {b : Block} {n : Nat} {m m' : Machine H capacity}

theorem congr (poised : Poised b n m) (block : m'.runtime.block = m.runtime.block)
    (counters : m'.runtime.counters = m.runtime.counters) : Poised b n m' :=
  { block := block.trans poised.block
    counters := by
      rw [counters]
      exact poised.counters }

theorem loadBlock (regular : b.Regular) (m : Machine H capacity) :
    Poised b 0 (loadBlock rig m b.active) :=
  { block := rfl
    counters := fun axis =>
      (PerAxis.get_constant _ axis).trans (seed_eq regular.eventful (b.steps.get axis).toNat) }

section StepEvent

variable (poised : Poised b n m)

include poised

theorem drawn (axis : Axis) :
    m.runtime.counters.get axis - (m.runtime.block.steps.get axis).toNat < 0 ↔
      b.stepsAt axis n = true := by
  rw [poised.counters axis, poised.block, Block.stepsAt, decide_eq_true_eq]
  exact Iff.rfl

theorem stepEvent (regular : b.Regular) : Poised b (n + 1) (stepEvent rig m) := by
  constructor
  · exact poised.block
  · intro axis
    rw [counterAfter_succ n (regular.steps_le axis) regular.eventful, ← poised.counters axis]
    have steps : (m.runtime.block.steps.get axis).toNat = (b.steps.get axis).toNat := by
      rw [poised.block]
      rfl
    have events : m.runtime.block.events.toNat = b.events.toNat := by
      rw [poised.block]
      rfl
    show (PerAxis.tabulate _).get axis = _
    rw [PerAxis.get_tabulate]
    beta_reduce
    rw [steps, events]

theorem position_stepEvent (axis : Axis) :
    (Machine.stepEvent rig m).position.get axis =
      m.position.get axis + b.sense axis * (if b.stepsAt axis n then 1 else 0 : Nat) := by
  have drawn := poised.drawn axis
  have sense : m.runtime.block.directions.contains (Lines.direction axis) = b.isNegative axis := by
    rw [poised.block]
    exact Lines.contains_direction_directionLines b.directions axis
  show (PerAxis.tabulate _).get axis = _
  rw [PerAxis.get_tabulate, Block.sense, sense]
  by_cases steps : b.stepsAt axis n = true
  · rw [if_pos (drawn.mpr steps), if_pos steps, Int.natCast_one]
    cases b.isNegative axis <;> simp [Int.sub_eq_add_neg]
  · rw [if_neg fun below => steps (drawn.mp below), if_neg steps, Int.natCast_zero, Int.mul_zero]
    exact (Int.add_zero _).symm

theorem staged_stepEvent :
    (Machine.stepEvent rig m).runtime.staged =
      some (eventImage b n ^^^ rig.settings.invertMask) := by
  have directions : m.runtime.block.directions = b.directions.directionLines := by
    rw [poised.block]
    rfl
  have same : (fun (image : Lines) (axis : Axis) =>
      if m.runtime.counters.get axis - (m.runtime.block.steps.get axis).toNat < 0 then
        image ||| Lines.step axis else image) =
      fun image axis => if b.stepsAt axis n then image ||| Lines.step axis else image := by
    funext image axis
    simp only [poised.drawn axis]
  rw [eventImage, ← same, ← directions]
  rfl

theorem position_stepEvent_ne (regular : b.Regular) :
    (Machine.stepEvent rig m).position ≠ m.position := by
  intro unmoved
  obtain ⟨axis, steps⟩ := Block.some_stepsAt regular n
  have moved := poised.position_stepEvent rig axis
  rw [unmoved, if_pos steps, Int.natCast_one, Int.mul_one] at moved
  exact b.sense_ne_zero axis (Int.add_left_cancel (moved.symm.trans (Int.add_zero _).symm))

end StepEvent

end Poised

end StepPulse
