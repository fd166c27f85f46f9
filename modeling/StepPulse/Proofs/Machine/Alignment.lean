import StepPulse.Proofs.Machine.Effect
import StepPulse.Proofs.Segment.Layout

/-! Planner, ring, slicing and runtime stay together, whatever is asked for or refused. -/

namespace StepPulse

open Machine

variable {H : Type} {capacity : Nat}

inductive Completion (m m' : Machine H capacity) : Prop
  | within :
      1 < m.runtime.stepsRemaining.toNat → m'.planner = m.planner → m'.pipeline = m.pipeline →
      m'.runtime.load = m.runtime.load → Completion m m'
  | segment :
      m.runtime.stepsRemaining.toNat ≤ 1 → m.runtime.segment.endsBlock = false →
      m'.planner = m.planner →
      m'.pipeline = { m.pipeline with segments := m.pipeline.segments.advance } →
      m'.runtime.load = .segment → Completion m m'
  | block :
      m.runtime.stepsRemaining.toNat ≤ 1 → m.runtime.segment.endsBlock = true →
      m'.planner = m.planner.discard →
      m'.pipeline = { m.pipeline with segments := m.pipeline.segments.advance } →
      m'.runtime.load = .block → Completion m m'

theorem toNat_stepsRemaining_stepEvent (rig : Rig H) (m : Machine H capacity) :
    (stepEvent rig m).runtime.stepsRemaining.toNat = m.runtime.stepsRemaining.toNat - 1 :=
  Saturating.toNat_sub _ _

theorem completion (rig : Rig H) (m : Machine H capacity) :
    Completion m (stepEvent rig m) := by
  have left := Saturating.toNat_sub m.runtime.stepsRemaining 1
  have one : (1 : UInt32).toNat = 1 := rfl
  by_cases done : Saturating.sub m.runtime.stepsRemaining 1 = 0
  · have last : m.runtime.stepsRemaining.toNat ≤ 1 := by
      rw [done, UInt32.toNat_zero] at left
      omega
    cases ends : m.runtime.segment.endsBlock with
    | false =>
        apply Completion.segment last ends
        · simp [stepEvent, ends]
        · simp [stepEvent, done]
        · simp [stepEvent, done, ends]
    | true =>
        apply Completion.block last ends
        · simp [stepEvent, done, ends]
        · simp [stepEvent, done]
        · simp [stepEvent, done, ends]
  · have more : 1 < m.runtime.stepsRemaining.toNat := by
      have positive : (Saturating.sub m.runtime.stepsRemaining 1).toNat ≠ 0 := fun zero =>
        done (UInt32.toNat_inj.mp zero)
      omega
    apply Completion.within more
    · simp [stepEvent, done]
    · simp [stepEvent, done]
    · simp [stepEvent, done]

theorem planner_stepEvent (rig : Rig H) (m : Machine H capacity) :
    (stepEvent rig m).planner =
      if m.runtime.stepsRemaining.toNat ≤ 1 ∧ m.runtime.segment.endsBlock = true then
        m.planner.discard
      else m.planner := by
  cases completion rig m with
  | within more planner =>
      rw [planner, if_neg]
      exact fun crossed => Nat.not_le_of_lt more crossed.1
  | segment _ open_ planner =>
      rw [planner, if_neg]
      exact fun crossed => Bool.false_ne_true (open_.symm.trans crossed.2)
  | block last ends planner => rw [planner, if_pos ⟨last, ends⟩]

/-- The machine executes what the ring and the planner hold; `first` events of the front block lie
before the ring. -/
structure Coherent (settings : Settings) (m : Machine H capacity) (first : Nat) : Prop where
  aligned : Aligned settings m.planner m.pipeline first
  executing : m.runtime.load = .nothing → m.pipeline.segments.peek? = some m.runtime.segment
  left : m.runtime.load = .nothing → 0 < m.runtime.stepsRemaining.toNat
  within : m.runtime.load = .nothing →
    m.runtime.stepsRemaining.toNat ≤ m.runtime.segment.steps.toNat

namespace Coherent

variable {rig : Rig H} {settings : Settings} {m m' ready : Machine H capacity} {first : Nat}
  {loadsBlock : Bool}

theorem congr (coherent : Coherent settings m first) (planner : m'.planner = m.planner)
    (pipeline : m'.pipeline = m.pipeline) (load : m'.runtime.load = m.runtime.load)
    (segment : m'.runtime.segment = m.runtime.segment)
    (stepsRemaining : m'.runtime.stepsRemaining = m.runtime.stepsRemaining) :
    Coherent settings m' first := by
  constructor
  · rw [planner, pipeline]
    exact coherent.aligned
  · rw [load, pipeline, segment]
    exact coherent.executing
  · rw [load, stepsRemaining]
    exact coherent.left
  · rw [load, segment, stepsRemaining]
    exact coherent.within

theorem still (coherent : Coherent settings m first) (still : Still m m') :
    Coherent settings m' first :=
  coherent.congr still.planner still.pipeline still.load still.segment still.stepsRemaining

theorem requestBlock (coherent : Coherent settings m first) :
    Coherent settings m.requestBlock first :=
  { aligned := coherent.aligned, executing := nofun, left := nofun, within := nofun }

theorem reset (coherent : Coherent settings m first) : Coherent settings m.reset 0 :=
  { aligned := Aligned.reset m.pipeline coherent.aligned.eventful
    executing := nofun, left := nofun, within := nofun }

protected theorem fresh (settings : Settings) (hardware : H) {q : BlockQueue capacity}
    (eventful : ∀ b ∈ q.blocks, b.events ≠ 0) :
    Coherent settings (Machine.fresh hardware q) 0 :=
  { aligned := Aligned.reset _ eventful, executing := nofun, left := nofun, within := nofun }

theorem queued (coherent : Coherent settings m first) {b : Block} {number : UInt64}
    {planner : BlockQueue capacity} (pushed : m.planner.push b = .ok (number, planner)) :
    Coherent settings { m with planner := planner } first :=
  { coherent with aligned := coherent.aligned.push pushed }

theorem front (coherent : Coherent settings m first) {s : Segment}
    (peeked : m.pipeline.segments.peek? = some s) :
    ∃ segments b blocks slot, m.pipeline.segments.toList = s :: segments ∧
      m.planner.blocks = b :: blocks ∧ CutFrom m.pipeline.blocks settings slot first b s := by
  rw [SegmentRing.peek?_eq_head? coherent.aligned.ring] at peeked
  obtain ⟨segments, queued⟩ := List.head?_eq_some_iff.mp peeked
  obtain ⟨b, blocks, slot, planned, cut⟩ := coherent.aligned.front queued
  exact ⟨segments, b, blocks, slot, queued, planned, cut⟩

/-- A queued segment always has its block in the planner. -/
theorem never_orphaned (coherent : Coherent settings m first) {s : Segment}
    (peeked : m.pipeline.segments.peek? = some s) : m.planner.current? ≠ none := by
  obtain ⟨_, b, blocks, _, _, planned, _⟩ := coherent.front peeked
  rw [BlockQueue.current?_of_planned planned]
  exact nofun

theorem loads (coherent : Coherent settings m first) (loads : Loads rig m ready loadsBlock) :
    Coherent settings ready first := by
  cases loads with
  | nothing => exact coherent
  | @segment s _ peeked =>
      obtain ⟨_, _, _, _, _, _, cut⟩ := coherent.front peeked
      exact ⟨coherent.aligned, fun _ => peeked, fun _ => cut.positive, fun _ => Nat.le_refl _⟩
  | @block s b _ peeked _ =>
      obtain ⟨_, _, _, _, _, _, cut⟩ := coherent.front peeked
      exact ⟨coherent.aligned, fun _ => peeked, fun _ => cut.positive, fun _ => Nat.le_refl _⟩

def passed (m : Machine H capacity) (first : Nat) : Nat :=
  if 1 < m.runtime.stepsRemaining.toNat then first
  else if m.runtime.segment.endsBlock then 0
  else first + m.runtime.segment.steps.toNat

theorem stepEvent (rig : Rig H) (coherent : Coherent settings m first)
    (load : m.runtime.load = .nothing) :
    Coherent settings (stepEvent rig m) (passed m first) := by
  obtain ⟨segments, b, blocks, slot, queued, _, _⟩ := coherent.front (coherent.executing load)
  have advanced := coherent.aligned.advance queued
  have left := toNat_stepsRemaining_stepEvent rig m
  have bound := coherent.within load
  cases completion rig m with
  | within more planner pipeline loaded =>
      rw [passed, if_pos more]
      refine
        { aligned := ?_, executing := fun _ => ?_, left := fun _ => ?_, within := fun _ => ?_ }
      · rw [planner, pipeline]
        exact coherent.aligned
      · rw [pipeline]
        exact coherent.executing load
      · omega
      · show _ ≤ m.runtime.segment.steps.toNat
        omega
  | segment last open_ planner pipeline due =>
      rw [passed, if_neg (Nat.not_lt.mpr last), open_]
      rw [open_] at advanced
      refine
        { aligned := ?_, executing := fun nothing => ?_, left := fun nothing => ?_
          within := fun nothing => ?_ }
      · rw [planner, pipeline]
        exact advanced
      all_goals
        rw [due] at nothing
        contradiction
  | block last ends planner pipeline due =>
      rw [passed, if_neg (Nat.not_lt.mpr last), ends]
      rw [ends] at advanced
      refine
        { aligned := ?_, executing := fun nothing => ?_, left := fun nothing => ?_
          within := fun nothing => ?_ }
      · rw [planner, pipeline]
        exact advanced
      all_goals
        rw [due] at nothing
        contradiction

theorem paced (coherent : Coherent settings m first) (distance : Int) :
    Coherent settings (paced rig m distance) first :=
  coherent.congr rfl rfl rfl rfl rfl

theorem setBusy (coherent : Coherent settings m first) (busy : Bool) :
    Coherent settings (m.setBusy busy) first :=
  coherent.congr rfl rfl rfl rfl rfl

theorem advances (coherent : Coherent settings m first) (load : m.runtime.load = .nothing)
    (advances : Advances rig m loadsBlock m') : ∃ first', Coherent settings m' first' := by
  cases advances with
  | coasts => exact ⟨_, (coherent.paced _).setBusy _⟩
  | steps => exact ⟨_, ((coherent.paced _).stepEvent rig load).setBusy _⟩

theorem ticks (coherent : Coherent settings m first) (ticks : Ticks rig m m') :
    ∃ first', Coherent settings m' first' := by
  cases ticks with
  | still still => exact ⟨_, coherent.still still⟩
  | advanced still loads advances =>
      exact ((coherent.still still).loads loads).advances loads.load advances
  | orphaned still peeked missing =>
      exact absurd missing ((coherent.still still).never_orphaned peeked)

theorem effect (coherent : Coherent settings m first) (effect : Effect rig m m') :
    ∃ first', Coherent settings m' first' := by
  cases effect with
  | still still => exact ⟨_, coherent.still still⟩
  | asked still => exact ⟨_, coherent.requestBlock.still still⟩
  | restarted still => exact ⟨_, coherent.reset.still still⟩
  | queued pushed => exact ⟨_, coherent.queued pushed⟩
  | placed axis steps => exact ⟨_, coherent.congr rfl rfl rfl rfl rfl⟩

theorem fill (coherent : Coherent settings m first) {sizing : Sizing} {room count : Nat}
    {p : Pipeline}
    (filled : m.pipeline.fill m.planner.source sizing settings room = .ok (p, count)) :
    Coherent settings { m with pipeline := p } first :=
  { coherent with
    aligned := coherent.aligned.fill filled
    executing := fun load =>
      Pipeline.peek?_fill coherent.aligned.ring (coherent.executing load) filled }

end Coherent

end StepPulse
