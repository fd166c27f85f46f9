import StepPulse.Proofs.Machine.Descent

/-! Runtime, ring and ramp agree on the segment in execution. -/

namespace StepPulse

open Machine

variable {H : Type} {capacity : Nat}

structure Executing (m : Machine H capacity) : Prop where
  queued : m.pipeline.segments.isEmpty = false
  front : m.pipeline.segments.peek? = some m.runtime.segment
  left : 1 ≤ m.runtime.stepsRemaining
  within : m.runtime.stepsRemaining ≤ m.runtime.segment.steps
  descends : m.runtime.ramp.phase = .decel ↔ m.runtime.segment.decelerates = true

/-- A tick takes its step event at `poised`: the staged image is out, the segment that was due is
loaded, and ramp and distance have moved on. A tick that loads a block takes none. -/
structure StepsAt (rig : Rig H) (m poised : Machine H capacity) : Prop where
  reached : ∃ m₀ ready, applyStaged rig m = (.ok (), m₀) ∧ Loads rig (m₀.setBusy true) ready false ∧
    poised = ready.paced rig (nextDistance rig ready + stepDistance ready)
  taken : m.tick rig = (stepEvent rig poised).setBusy false

/-- A step event of the loaded segment is used up. With the last one, that segment leaves the
ring. -/
structure UsesUp (m m' : Machine H capacity) : Prop where
  counted : m'.runtime.stepsRemaining.toNat + 1 = m.runtime.stepsRemaining.toNat
  kept : m'.runtime.stepsRemaining ≠ 0 → m'.pipeline = m.pipeline
  released : m'.runtime.stepsRemaining = 0 →
    m.pipeline.segments.toList = m.runtime.segment :: m'.pipeline.segments.toList

theorem SegmentRing.isEmpty_of_peek? {r : SegmentRing} {s : Segment} (peeked : r.peek? = some s) :
    r.isEmpty = false := by
  rw [peek?] at peeked
  split at peeked
  · contradiction
  · next other => exact Bool.eq_false_iff.mpr other

section Surveyed

variable {rig : Rig H} {settings : Settings} {m ready poised : Machine H capacity} {v : Survey}

/-- The job at the front settles both: its segments are marked from its breakpoint on, and the ramp
is down from there on. -/
theorem Surveyed.executing (surveyed : Surveyed settings m v) (load : m.runtime.load = .nothing) :
    Executing m := by
  have front := surveyed.coherent.executing load
  obtain ⟨job, _, jobs, underWay⟩ := surveyed.underWay (ne_of_eq_of_ne load Load.noConfusion)
  obtain ⟨job', _, _, _, _, jobs', _, _, marked, _⟩ := surveyed.front front
  obtain ⟨rfl, _⟩ := List.cons.inj (jobs.symm.trans jobs')
  constructor
  case queued => exact SegmentRing.isEmpty_of_peek? front
  case front => exact front
  case left => exact UInt32.le_iff_toNat_le.mpr (surveyed.coherent.left load)
  case within => exact UInt32.le_iff_toNat_le.mpr (surveyed.coherent.within load)
  case descends =>
    constructor
    · intro decel
      exact marked.decelerates.mpr (underWay.descending decel)
    · intro slower
      exact underWay.turned load (marked.decelerates.mp slower)

theorem Executing.usesUp (rig : Rig H) (executing : Executing m)
    (ring : m.pipeline.segments.WellFormed) : UsesUp m (stepEvent rig m) := by
  have left := UInt32.le_iff_toNat_le.mp executing.left
  have fewer := toNat_stepsRemaining_stepEvent rig m
  have one : (1 : UInt32).toNat = 1 := rfl
  have counted : (stepEvent rig m).runtime.stepsRemaining.toNat + 1 =
      m.runtime.stepsRemaining.toNat := by omega
  have zero : (stepEvent rig m).runtime.stepsRemaining = 0 ↔
      m.runtime.stepsRemaining.toNat ≤ 1 := by
    rw [← UInt32.toNat_inj, UInt32.toNat_zero]
    omega
  have released (advanced : (stepEvent rig m).pipeline =
      { m.pipeline with segments := m.pipeline.segments.advance }) :
      m.pipeline.segments.toList =
        m.runtime.segment :: (stepEvent rig m).pipeline.segments.toList := by
    have front := executing.front
    rw [SegmentRing.peek?_eq_head? ring] at front
    obtain ⟨later, queued⟩ := List.head?_eq_some_iff.mp front
    rw [advanced, SegmentRing.toList_advance ring, queued, List.tail_cons]
  cases completion rig m with
  | within more _ pipeline =>
      refine ⟨counted, fun _ => pipeline, fun none => ?_⟩
      exact absurd (zero.mp none) (Nat.not_le.mpr more)
  | segment last _ _ pipeline =>
      exact ⟨counted, fun some => absurd (zero.mpr last) some, fun _ => released pipeline⟩
  | block last _ _ pipeline =>
      exact ⟨counted, fun some => absurd (zero.mpr last) some, fun _ => released pipeline⟩

theorem Surveyed.stepsAt (surveyed : Surveyed rig.settings m v) (steps : StepsAt rig m poised) :
    poised.runtime.load = .nothing ∧ Surveyed rig.settings poised v := by
  obtain ⟨m₀, ready, applied, loads, rfl⟩ := steps.reached
  have begun := surveyed.still (still_begun applied)
  exact ⟨loads.load, (begun.loads loads).paced _⟩

theorem Surveyed.steps_or_rests (surveyed : Surveyed rig.settings m v) :
    (∃ poised, StepsAt rig m poised) ∨
      (m.tick rig).planner = m.planner ∧ (m.tick rig).pipeline = m.pipeline ∧
        (m.tick rig).position = m.position := by
  rcases tick_cases rig m with ⟨_, same⟩ | ⟨cause, m₀, refused, same⟩ | ⟨m₀, applied, executes⟩
  · rw [same]
    exact Or.inr ⟨rfl, rfl, rfl⟩
  · have still := still_alarmed refused
    rw [same]
    exact Or.inr ⟨still.planner, still.pipeline, still.position⟩
  · have begun := still_begun applied
    generalize ticked : m.tick rig = m' at executes
    cases executes with
    | holds => exact Or.inr ⟨begun.planner, begun.pipeline, begun.position⟩
    | runsDry =>
        have ended := begun.trans (still_finishCycle rig (m₀.setBusy true))
        exact Or.inr ⟨ended.planner, ended.pipeline, ended.position⟩
    | orphaned queued missing =>
        exact absurd missing ((surveyed.still begun).coherent.never_orphaned queued)
    | @advances ready loadsBlock loads =>
        have advances : Advances rig ready loadsBlock (advance rig ready loadsBlock) :=
          Machine.advances rfl
        generalize advance rig ready loadsBlock = m' at ticked advances
        cases advances with
        | coasts =>
            exact Or.inr ⟨loads.planner.trans begun.planner, loads.pipeline.trans begun.pipeline,
              loads.position.trans begun.position⟩
        | steps _ within =>
            subst within
            exact Or.inl ⟨_, ⟨m₀, ready, applied, loads, rfl⟩, ticked⟩

end Surveyed

structure ExecutesItsFront (rig : Rig H) (m : Machine H capacity) : Prop where
  executing : m.runtime.load = .nothing → Executing m
  stepping : ∀ {poised : Machine H capacity}, StepsAt rig m poised →
    poised.runtime.load = .nothing ∧ Executing poised ∧ UsesUp poised (stepEvent rig poised)
  resting : (∃ poised, StepsAt rig m poised) ∨
    (m.tick rig).planner = m.planner ∧ (m.tick rig).pipeline = m.pipeline ∧
      (m.tick rig).position = m.position

/-- In any order of operations, with stray ticks, refused writes, restarts and wake-ups in the middle
of a block, no step event finds anything but the front of the ring in execution, and none finds its
count at zero. -/
theorem executes_its_front (rig : Rig H) (hardware : H) {q : BlockQueue capacity}
    (eventful : ∀ b ∈ q.blocks, b.events ≠ 0) {m : Machine H capacity}
    (ran : Run rig anyOrder unrecorded (Machine.fresh hardware q) () m ()) :
    ExecutesItsFront rig m := by
  obtain ⟨v, surveying⟩ := ran.recorded (survey rig) {}
  have surveyed := (Surveyed.fresh rig.settings hardware eventful).run surveying
  constructor
  case executing => exact surveyed.executing
  case stepping =>
    intro poised steps
    obtain ⟨load, reached⟩ := surveyed.stepsAt steps
    have executing := reached.executing load
    exact ⟨load, executing, executing.usesUp rig reached.coherent.aligned.ring⟩
  case resting => exact surveyed.steps_or_rests

theorem descending_after_wakeUp :
    ∃ m : Machine Unit 4, Run sampleRig anyOrder unrecorded (Machine.fresh () {}) () m () ∧
      (m.runtime.load = .nothing ∧ m.runtime.stepsRemaining = 1 ∧
        m.runtime.ramp.phase = .decel) ∧
      ExecutesItsFront sampleRig m := by
  have followed : (follow sampleRig (fun _ op => op.keepsBlocks) unrecorded
      (Machine.fresh () {} : Machine Unit 4) ()
      [.pushBlock climbBlock, .queue, .cycleStart, .prepareSegments, .tick, .tick, .wakeUp, .tick,
        .tick, .tick, .tick, .tick]).any (fun r => decide (r.1.runtime.load = .nothing ∧
          r.1.runtime.stepsRemaining = 1 ∧ r.1.runtime.ramp.phase = .decel)) = true := by
    decide +kernel
  obtain ⟨m, _, ran, shown⟩ := exists_run (fun _ _ keeps => keeps) followed
  exact ⟨m, ran, of_decide_eq_true shown, executes_its_front sampleRig () (by decide) ran⟩

end StepPulse
