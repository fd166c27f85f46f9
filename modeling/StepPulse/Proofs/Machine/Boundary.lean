import StepPulse.Proofs.Machine.Completion
import StepPulse.Proofs.Machine.Guard
import StepPulse.Proofs.Machine.Hold

/-!
Where a feed hold takes effect. Once it is asked for, no load takes place any more, so ticks bring
the machine to the end of the segment in execution and no further. Each of them takes a step event
or comes closer to the next one, so that the end is reached; one tick more writes the last image and
stops the tick source.
-/

namespace StepPulse

open Machine

variable {H : Type} {capacity : Nat}

/-- The images that step events have staged, the latest first. Whatever a tick leaves staged comes
from a step event, unless the tick loads a block. -/
def Machine.stepImages : Recorder (Watched H) capacity (List Lines) := fun m op m' images =>
  if op = .tick ∧ m.runtime.busy = false ∧ m.runtime.load ≠ .block then
    m'.runtime.staged.toList ++ images
  else images

def Machine.whileTicking : Rule (Watched H) capacity := fun m op => m.ticking = true ∧ op = .tick

namespace Rig.Faultless

variable {rig : Rig H} (faultless : rig.Faultless) (m : Machine (Watched H) capacity)

include faultless

theorem images_applyStaged :
    (Machine.applyStaged rig.watched m).2.journal.images =
      m.runtime.staged.toList ++ m.journal.images := by
  cases staged : m.runtime.staged with
  | none =>
      rw [applyStaged_none staged]
      rfl
  | some image =>
      obtain ⟨_, applied⟩ := faultless.applyStaged_after m staged
      rw [applied]
      rfl

/-- A tick begins with the staged image, and then executes. -/
theorem tick_executes (free : m.runtime.busy = false) :
    ∃ m₀, m.tick rig.watched = execute rig.watched m₀ ∧ Still m m₀ ∧
      m₀.runtime.staged = none ∧ m₀.runState = m.runState ∧ m₀.ticking = m.ticking ∧
      m₀.journal.images = m.runtime.staged.toList ++ m.journal.images := by
  obtain ⟨m₀, taken, applied⟩ := faultless.applyStaged m rig.settings.invertMask
  have images := faultless.images_applyStaged m
  rw [taken] at images
  exact ⟨m₀.setBusy true, tick_applied free taken, applied.still.trans ⟨rfl, rfl, rfl, rfl⟩,
    applied.staged, applied.runState, applied.ticking, images⟩

end Rig.Faultless

/-- How far a machine has come that has been braking since `start`, with these step events. -/
inductive Braked (start m : Machine (Watched H) capacity) (images : List Lines) : Prop
  | due :
      start.runtime.load ≠ .nothing → m.runtime.load ≠ .nothing → images = [] →
      m.planner = start.planner → m.pipeline = start.pipeline → Braked start m images
  | amid :
      start.runtime.load = .nothing → m.runtime.load = .nothing →
      0 < m.runtime.stepsRemaining.toNat →
      images.length + m.runtime.stepsRemaining.toNat = start.runtime.stepsRemaining.toNat →
      m.runtime.segment = start.runtime.segment → m.planner = start.planner →
      m.pipeline = start.pipeline → Braked start m images
  | ended :
      start.runtime.load = .nothing → m.runtime.load ≠ .nothing →
      images.length = start.runtime.stepsRemaining.toNat →
      Released start m start.runtime.segment m.pipeline.segments.toList → Braked start m images

structure Braking (start m : Machine (Watched H) capacity) (images : List Lines) : Prop where
  ticking : m.ticking = true
  hold : m.runState = .hold
  free : m.runtime.busy = false
  trail : m.runtime.staged.toList ++ m.journal.images =
    images ++ start.runtime.staged.toList ++ start.journal.images
  braked : Braked start m images

structure ImageWritten (start m : Machine (Watched H) capacity) (images : List Lines) : Prop where
  ticking : m.ticking = true
  hold : m.runState = .hold
  staged : m.runtime.staged = none
  written : m.journal.images = images ++ start.runtime.staged.toList ++ start.journal.images
  braked : Braked start m images

/-- Ticks have stopped for a hold, at the end of the segment that was in execution at the start. -/
structure AtBoundary (start m : Machine (Watched H) capacity) (images : List Lines) : Prop where
  silent : m.ticking = false
  runState : m.runState = .hold
  cycleStop : m.cycleStop = true
  staged : m.runtime.staged = none
  written : m.journal.images = images ++ start.runtime.staged.toList ++ start.journal.images
  amid : start.runtime.load = .nothing →
    images.length = start.runtime.stepsRemaining.toNat ∧
      Released start m start.runtime.segment m.pipeline.segments.toList
  due : start.runtime.load ≠ .nothing →
    images = [] ∧ m.planner = start.planner ∧ m.pipeline = start.pipeline
  /-- A segment in execution has its block in the planner, which is the one that is discarded. -/
  planned : start.runtime.load = .nothing → start.planner.current? ≠ none

theorem Released.congr {m m' m'' : Machine H capacity} {s : Segment} {segments : List Segment}
    (released : Released m m' s segments) (planner : m''.planner = m'.planner)
    (pipeline : m''.pipeline = m'.pipeline) (segment : m''.runtime.segment = m'.runtime.segment)
    (stepsRemaining : m''.runtime.stepsRemaining = m'.runtime.stepsRemaining) :
    Released m m'' s segments :=
  { queued := released.queued
    planner := planner.trans released.planner
    pipeline := pipeline.trans released.pipeline
    executed := segment.trans released.executed
    finished := stepsRemaining.trans released.finished }

namespace Braked

variable {settings : Settings} {start m m' : Machine (Watched H) capacity} {images : List Lines}
  {first : Nat}

theorem congr (braked : Braked start m images) (planner : m'.planner = m.planner)
    (pipeline : m'.pipeline = m.pipeline) (load : m'.runtime.load = m.runtime.load)
    (segment : m'.runtime.segment = m.runtime.segment)
    (stepsRemaining : m'.runtime.stepsRemaining = m.runtime.stepsRemaining) :
    Braked start m' images := by
  cases braked with
  | due due due' none planner' pipeline' =>
      rw [← load] at due'
      exact .due due due' none (planner.trans planner') (pipeline.trans pipeline')
  | amid loaded loaded' left sum segment' planner' pipeline' =>
      rw [← stepsRemaining] at left sum
      exact .amid loaded (load.trans loaded') left sum (segment.trans segment')
        (planner.trans planner') (pipeline.trans pipeline')
  | ended loaded due all released =>
      rw [← load] at due
      rw [← pipeline] at released
      exact .ended loaded due all (released.congr planner pipeline segment stepsRemaining)

theorem still (braked : Braked start m images) (still : Still m m') : Braked start m' images :=
  braked.congr still.planner still.pipeline still.load still.segment still.stepsRemaining

theorem stepEvent (rig : Rig (Watched H)) (coherent : Coherent settings start first)
    (braked : Braked start m images) (load : m.runtime.load = .nothing) (image : Lines) :
    Braked start (stepEvent rig m) (image :: images) := by
  cases braked with
  | due _ due => exact absurd load due
  | ended _ due => exact absurd load due
  | amid loaded _ left sum segment planner pipeline =>
      obtain ⟨segments, _, _, _, queued, _⟩ := coherent.front (coherent.executing loaded)
      have left_ := SegmentRing.toList_advance coherent.aligned.ring
      rw [queued, List.tail_cons] at left_
      have fewer := toNat_stepsRemaining_stepEvent rig m
      have released (last : m.runtime.stepsRemaining.toNat ≤ 1)
          (planner' : (Machine.stepEvent rig m).planner =
            if start.runtime.segment.endsBlock then start.planner.discard else start.planner)
          (pipeline' : (Machine.stepEvent rig m).pipeline =
            { m.pipeline with segments := m.pipeline.segments.advance }) :
          Released start (Machine.stepEvent rig m) start.runtime.segment
            (Machine.stepEvent rig m).pipeline.segments.toList := by
        rw [pipeline] at pipeline'
        rw [pipeline', left_]
        refine
          { queued := queued, planner := planner', pipeline := pipeline', executed := segment
            finished := UInt32.toNat_inj.mp ?_ }
        rw [fewer, UInt32.toNat_zero]
        omega
      have longer : (image :: images).length = images.length + 1 := List.length_cons
      cases completion rig m with
      | within more planner' pipeline' load' =>
          refine .amid loaded (load'.trans load) ?_ ?_ segment (planner'.trans planner)
            (pipeline'.trans pipeline)
          · omega
          · omega
      | segment last open_ planner' pipeline' load' =>
          refine .ended loaded (ne_of_eq_of_ne load' (by decide)) ?_ (released last ?_ pipeline')
          · omega
          · rw [planner', planner, ← segment, open_]
            rfl
      | block last ends planner' pipeline' load' =>
          refine .ended loaded (ne_of_eq_of_ne load' (by decide)) ?_ (released last ?_ pipeline')
          · omega
          · rw [planner', planner, ← segment, ends]
            rfl

end Braked

namespace ImageWritten

variable {rig : Rig H} {settings : Settings} {start m : Machine (Watched H) capacity}
  {images : List Lines} {first : Nat}

theorem stops (coherent : Coherent settings start first) (halfway : ImageWritten start m images)
    (due : m.runtime.load ≠ .nothing) : AtBoundary start (finishHold rig.watched m) images := by
  refine
    { silent := rfl, runState := halfway.hold, cycleStop := rfl, staged := halfway.staged
      written := halfway.written, amid := ?_, due := ?_
      planned := fun load => coherent.never_orphaned (coherent.executing load) }
  · intro load
    cases halfway.braked with
    | due other => exact absurd load other
    | amid _ loaded => exact absurd loaded due
    | ended _ _ all released => exact ⟨all, released.congr rfl rfl rfl rfl⟩
  · intro other
    cases halfway.braked with
    | due _ _ none planner pipeline => exact ⟨none, planner, pipeline⟩
    | amid load => exact absurd load other
    | ended load => exact absurd load other

theorem stepsRemaining_pos (halfway : ImageWritten start m images)
    (load : m.runtime.load = .nothing) : 0 < m.runtime.stepsRemaining.toNat := by
  cases halfway.braked with
  | due _ due => exact absurd load due
  | ended _ due => exact absurd load due
  | amid _ _ left => exact left

theorem coasts (halfway : ImageWritten start m images) (rig : Rig H) (distance : Int) :
    Braking start ((m.paced rig.watched distance).setBusy false) images := by
  have blank : ((m.paced rig.watched distance).setBusy false).runtime.staged.toList = [] :=
    congrArg Option.toList halfway.staged
  refine
    { ticking := halfway.ticking, hold := halfway.hold, free := rfl, trail := ?_
      braked := halfway.braked.congr rfl rfl rfl rfl rfl }
  rw [blank]
  exact halfway.written

theorem steps (coherent : Coherent settings start first) (halfway : ImageWritten start m images)
    (load : m.runtime.load = .nothing) (rig : Rig H) (distance : Int) :
    Braking start ((stepEvent rig.watched (m.paced rig.watched distance)).setBusy false)
      ((stepEvent rig.watched (m.paced rig.watched distance)).runtime.staged.toList ++ images) := by
  have braked : Braked start (m.paced rig.watched distance) images :=
    halfway.braked.congr rfl rfl rfl rfl rfl
  refine
    { ticking := halfway.ticking, hold := halfway.hold, free := rfl, trail := ?_
      braked := (braked.stepEvent rig.watched coherent load _).congr rfl rfl rfl rfl rfl }
  exact congrArg (_ :: ·) halfway.written

end ImageWritten

namespace Braking

variable {rig : Rig H} {settings : Settings} {start m : Machine (Watched H) capacity}
  {images : List Lines} {first : Nat}

theorem begin (coherent : Coherent settings start first) (ticking : start.ticking = true)
    (hold : start.runState = .hold) (free : start.runtime.busy = false) :
    Braking start start [] := by
  refine { ticking := ticking, hold := hold, free := free, trail := rfl, braked := ?_ }
  by_cases load : start.runtime.load = .nothing
  · exact .amid load load (coherent.left load) (Nat.zero_add _) rfl rfl rfl
  · exact .due load load rfl rfl rfl

theorem tick_executes (braking : Braking start m images) (faultless : rig.Faultless) :
    ∃ m₀, m.tick rig.watched = execute rig.watched m₀ ∧ Still m m₀ ∧
      ImageWritten start m₀ images := by
  obtain ⟨m₀, ticks, still, staged, runState, ticking, written⟩ :=
    faultless.tick_executes m braking.free
  exact ⟨m₀, ticks, still,
    { ticking := ticking.trans braking.ticking
      hold := runState.trans braking.hold
      staged := staged
      written := written.trans braking.trail
      braked := braking.braked.still still }⟩

theorem stops (coherent : Coherent settings start first) (braking : Braking start m images)
    (faultless : rig.Faultless) (due : m.runtime.load ≠ .nothing) :
    AtBoundary start (m.tick rig.watched) images := by
  obtain ⟨m₀, ticks, still, halfway⟩ := braking.tick_executes faultless
  rw [← still.load] at due
  rw [ticks, execute_held due halfway.hold]
  exact halfway.stops coherent due

theorem advances (coherent : Coherent settings start first) (braking : Braking start m images)
    (faultless : rig.Faultless) (floor : 0 < rig.settings.minimumStepRate.toNat)
    (load : m.runtime.load = .nothing) :
    Braking start (m.tick rig.watched) ((m.tick rig.watched).runtime.staged.toList ++ images) ∧
      ((m.tick rig.watched).runtime.stepsRemaining.toNat < m.runtime.stepsRemaining.toNat ∨
        (m.tick rig.watched).runtime.stepsRemaining = m.runtime.stepsRemaining ∧
          (m.tick rig.watched).runtime.distance.toNat < m.runtime.distance.toNat) := by
  obtain ⟨m₀, ticks, still, halfway⟩ := braking.tick_executes faultless
  have load₀ := still.load.trans load
  rw [ticks, execute_loaded load₀, ← still.stepsRemaining, ← still.distance]
  generalize advanced : advance rig.watched m₀ false = m'
  cases Machine.advances advanced with
  | coasts cause =>
      have ahead : 0 ≤ nextDistance rig.watched m₀ := by simpa using cause
      have coasts := halfway.coasts rig (nextDistance rig.watched m₀)
      have blank : ((m₀.paced rig.watched (nextDistance rig.watched m₀)).setBusy
          false).runtime.staged.toList = [] := congrArg Option.toList halfway.staged
      rw [blank]
      exact ⟨coasts, Or.inr ⟨rfl, nextDistance_lt floor ahead⟩⟩
  | steps =>
      have steps := halfway.steps coherent load₀ rig
        (nextDistance rig.watched m₀ + stepDistance m₀)
      have left := toNat_stepsRemaining_stepEvent rig.watched
        (m₀.paced rig.watched (nextDistance rig.watched m₀ + stepDistance m₀))
      refine ⟨steps, Or.inl ?_⟩
      show (stepEvent rig.watched _).runtime.stepsRemaining.toNat < _
      rw [left]
      exact Nat.sub_lt (halfway.stepsRemaining_pos load₀) Nat.zero_lt_one

theorem arrives (coherent : Coherent settings start first) (faultless : rig.Faultless)
    (floor : 0 < rig.settings.minimumStepRate.toNat) {m : Machine (Watched H) capacity}
    {images : List Lines} (braking : Braking start m images)
    (ran : Run rig.watched whileTicking stepImages start [] m images) :
    ∃ m' images', Run rig.watched whileTicking stepImages start [] m' images' ∧
      AtBoundary start m' images' := by
  have ticked : Run rig.watched whileTicking stepImages start [] (m.tick rig.watched)
      (stepImages m .tick (m.tick rig.watched) images) :=
    ran.step ⟨braking.ticking, rfl⟩ rfl
  by_cases load : m.runtime.load = .nothing
  · obtain ⟨braking', closer⟩ := braking.advances coherent faultless floor load
    have counted : stepImages m .tick (m.tick rig.watched) images =
        (m.tick rig.watched).runtime.staged.toList ++ images :=
      if_pos ⟨rfl, braking.free, ne_of_eq_of_ne load (by decide)⟩
    rw [counted] at ticked
    exact braking'.arrives coherent faultless floor ticked
  · have boundary := braking.stops coherent faultless load
    have counted : stepImages m .tick (m.tick rig.watched) images = images := by
      rw [stepImages, boundary.staged]
      exact ite_self _
    rw [counted] at ticked
    exact ⟨_, _, ticked, boundary⟩
-- A tick that takes no step event draws from the distance to the next one.
termination_by (m.runtime.stepsRemaining.toNat, m.runtime.distance.toNat)
decreasing_by
  rcases closer with fewer | ⟨same, nearer⟩
  · exact Prod.Lex.left _ _ fewer
  · rw [same]
    exact Prod.Lex.right _ nearer

end Braking

/-- Wherever a cycle has come to, with the ticks arriving and whatever was refused before: once a
hold is asked for and nothing is refused any more, ticks bring the machine to the end of the segment
in execution, where they stop. -/
theorem hold_stops_at_boundary (rig mended : Rig H) (same : mended.settings = rig.settings)
    (faultless : mended.Faultless) (valid : rig.settings.check = .ok ()) (hardware : H)
    {q : BlockQueue capacity} (eventful : ∀ b ∈ q.blocks, b.events ≠ 0)
    {m : Machine (Watched H) capacity}
    (reached : Run rig.watched anyOrder unrecorded (Machine.fresh { hardware := hardware } q) ()
      m ())
    (cycle : m.runState = .cycle) (ticking : m.ticking = true) :
    ∃ m' images, Run mended.watched whileTicking stepImages m.feedHold [] m' images ∧
      AtBoundary m m' images := by
  obtain ⟨v, traced⟩ := reached.recorded (trace rig.watched) {}
  have accounted : Accounted rig.watched.settings m v :=
    Accounted.run (fun _ _ keeps => keeps) (Accounted.fresh rig.settings _ eventful) traced
  obtain ⟨first, coherent⟩ := accounted.coherent
  have floor : 0 < mended.settings.minimumStepRate.toNat := by
    rw [same]
    exact Settings.floor_pos_of_check valid
  have free : m.runtime.busy = false := reached.free rfl
  have held : m.feedHold = { m with runState := .hold } := if_pos cycle
  have coherent' : Coherent rig.settings m.feedHold first := by
    rw [held]
    exact coherent.congr rfl rfl rfl rfl rfl
  have braking : Braking m.feedHold m.feedHold [] := by
    apply Braking.begin coherent'
    · rwa [held]
    · rw [held]
    · rwa [held]
  obtain ⟨m', images, ran, boundary⟩ := braking.arrives coherent' faultless floor .start
  refine ⟨m', images, ran, ?_⟩
  rw [held] at boundary
  exact
    { silent := boundary.silent, runState := boundary.runState, cycleStop := boundary.cycleStop
      staged := boundary.staged, written := boundary.written, due := boundary.due
      planned := boundary.planned
      amid := fun load => by
        obtain ⟨all, released⟩ := boundary.amid load
        exact ⟨all, released.queued, released.planner, released.pipeline, released.executed,
          released.finished⟩ }

def stuckRig : Rig Unit :=
  { sampleRig with
    port := { sampleRig.port with writeStepLines := fun _ h => (.error .step, h) } }

theorem hold_after_refusal :
    ∃ m : Machine (Watched Unit) 4,
      Run stuckRig.watched anyOrder unrecorded sampleStart () m () ∧ m.runState = .cycle ∧
      m.ticking = true ∧ m.runtime.staged ≠ none ∧
      ∃ m' images, Run sampleRig.watched whileTicking stepImages m.feedHold [] m' images ∧
        AtBoundary m m' images ∧ images.length = 1 ∧ m'.planner = m.planner.discard := by
  have followed : (follow stuckRig.watched (fun _ op => op.keepsBlocks) unrecorded sampleStart ()
      [.pushBlock .sample, .prepareSegments, .queue, .cycleStart, .tick, .pulseReset, .acknowledge,
        .queue, .cycleStart, .tick, .tick, .tick]).any (fun r =>
      r.1.runState == .cycle && (r.1.ticking && (r.1.runtime.staged != none &&
        (r.1.runtime.load == .nothing && (r.1.runtime.stepsRemaining == 1 &&
          r.1.runtime.segment.endsBlock))))) = true := by decide +kernel
  obtain ⟨m, _, ran, shown⟩ := exists_run (fun _ _ keeps => keeps) followed
  simp only [Bool.and_eq_true, beq_iff_eq, bne_iff_ne] at shown
  obtain ⟨cycle, ticking, staged, load, left, ends⟩ := shown
  obtain ⟨m', images, held, boundary⟩ := hold_stops_at_boundary stuckRig sampleRig rfl
    (Rig.faultless_bench _ _) (by decide) () (by decide) ran cycle ticking
  obtain ⟨all, released⟩ := boundary.amid load
  refine ⟨m, ran, cycle, ticking, staged, m', images, held, boundary, ?_, ?_⟩
  · rw [all, left]
    rfl
  · rw [released.planner, ends]
    rfl

end StepPulse
