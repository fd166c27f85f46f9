import StepPulse.Proofs.Machine.Faultless
import StepPulse.Proofs.Machine.Passage
import StepPulse.Settings.Basic

/-!
A machine that is fed in time. While the ring never runs dry within a block, each block is crossed
in a single stint, so what is planned is what is still to come: place and pulses at the end are
settled from the start. Each tick brings the end closer: by a step event, by the load of a block, or
else by the distance to the next event.
-/

namespace StepPulse

open Machine

variable {H : Type} {capacity : Nat}

def Machine.made (m : Machine H capacity) (t : Trip) (axis : Axis) : Nat :=
  match m.planner.current? with
  | none => 0
  | some b => b.dueIn axis t.stints

namespace BlockQueue

variable {A : Type} [AddMonoid A]

def total (f : Block → A) (q : BlockQueue capacity) : A := (q.blocks.map f).sum

theorem total_of_planned (f : Block → A) {q : BlockQueue capacity} {b : Block}
    {blocks : List Block} (planned : q.blocks = b :: blocks) :
    q.total f = f b + q.discard.total f := by
  rw [total, total, blocks_discard, planned, List.map_cons, List.sum_cons, List.tail_cons]

theorem total_of_empty (f : Block → A) {q : BlockQueue capacity} (empty : q.blocks = []) :
    q.total f = 0 := by
  rw [total, empty]
  rfl

theorem total_push (f : Block → A) {q q' : BlockQueue capacity} {b : Block} {number : UInt64}
    (pushed : q.push b = .ok (number, q')) : q'.total f = q.total f + f b := by
  obtain ⟨_, _, _, rfl⟩ := push_eq_ok_iff.mp pushed
  rw [total, total, List.map_append, List.sum_append, List.map_singleton, List.sum_singleton]

def signedSteps (axis : Axis) : BlockQueue capacity → Int := total fun b => b.signedSteps axis

def steps (axis : Axis) : BlockQueue capacity → Nat := total fun b => (b.steps.get axis).toNat

def events : BlockQueue capacity → Nat := total fun b => b.events.toNat

end BlockQueue

/-- On course in the first stint of its block; once all that is planned is executed, the machine is
at `place` and has made so many `strokes`. -/
structure Ready (settings : Settings) (m : Machine (Watched H) capacity) (t : Trip)
    (place : Axis → Int) (strokes : Axis → Nat) : Prop where
  onCourse : ∃ first, OnCourse settings m t first
  unbegun : m.runtime.load = .block → t.stints = []
  single : t.stints.length ≤ 1
  place : ∀ axis, t.origin.get axis + m.planner.signedSteps axis = place axis
  strokes : ∀ axis, m.journal.pulses settings.invertMask axis +
    m.pending settings.invertMask axis + m.planner.steps axis = strokes axis + m.made t axis

structure Running (m : Machine (Watched H) capacity) : Prop where
  ticking : m.ticking = true
  cycle : m.runState = .cycle
  free : m.runtime.busy = false

def Machine.unexecuted (m : Machine H capacity) (t : Trip) : Nat :=
  m.planner.events - t.stints.sum

def Machine.loadsDue (m : Machine H capacity) : Nat := if m.runtime.load = .block then 1 else 0

/-- The end is closer: by a step event, by a block load, or by the distance to the next event. -/
def Closer (m : Machine H capacity) (t : Trip) (m' : Machine H capacity) (t' : Trip) : Prop :=
  m'.unexecuted t' < m.unexecuted t ∨ m'.unexecuted t' = m.unexecuted t ∧
    (m'.loadsDue < m.loadsDue ∨ m'.loadsDue = m.loadsDue ∧
      m'.runtime.distance.toNat < m.runtime.distance.toNat)

namespace Ready

variable {rig : Rig H} {settings : Settings} {m m' ready : Machine (Watched H) capacity} {t : Trip}
  {place : Axis → Int} {strokes : Axis → Nat} {loadsBlock : Bool}

theorem congr (readied : Ready settings m t place strokes)
    (onCourse : ∃ first, OnCourse settings m' t first) (planner : m'.planner = m.planner)
    (load : m'.runtime.load = .block → m.runtime.load = .block)
    (pulses : ∀ axis, m'.journal.pulses settings.invertMask axis +
      m'.pending settings.invertMask axis = m.journal.pulses settings.invertMask axis +
        m.pending settings.invertMask axis) : Ready settings m' t place strokes := by
  refine
    { onCourse := onCourse, unbegun := fun block => readied.unbegun (load block)
      single := readied.single, place := ?_, strokes := ?_ }
  · rw [planner]
    exact readied.place
  · intro axis
    rw [pulses, made, planner]
    exact readied.strokes axis

theorem pending_of_none (staged : m.runtime.staged = none) (inverted : Lines) (axis : Axis) :
    m.pending inverted axis = 0 := by
  rw [pending, staged]

theorem made_of_current {b : Block} (current : m.planner.current? = some b) (t : Trip)
    (axis : Axis) : m.made t axis = b.dueIn axis t.stints := by
  rw [made, current]

theorem applied (readied : Ready settings m t place strokes)
    (applied : Applied settings.invertMask m m') :
    Ready settings (m'.setBusy true) t place strokes := by
  obtain ⟨first, onCourse⟩ := readied.onCourse
  have still : Still m (m'.setBusy true) := applied.still.trans ⟨rfl, rfl, rfl, rfl⟩
  refine readied.congr ⟨first, onCourse.still still⟩ still.planner (fun block => ?_) fun axis => ?_
  · rwa [still.load] at block
  · rw [pending_of_none (m := m'.setBusy true) applied.staged]
    exact applied.pulses axis

theorem loads (readied : Ready rig.settings m t place strokes)
    (loads : Loads rig.watched m ready loadsBlock) (staged : m.runtime.staged = none) :
    Ready rig.settings ready (if loadsBlock then t.begun else t) place strokes := by
  obtain ⟨first, onCourse⟩ := readied.onCourse
  have course := onCourse.loads loads
  have blank := pending_of_none staged rig.settings.invertMask
  cases loads with
  | nothing => exact readied
  | @segment s due peeked => exact readied.congr ⟨first, course⟩ rfl nofun fun _ => rfl
  | @block s b due peeked current =>
      let loaded := finishLoad rig.watched (loadBlock rig.watched (loadSegment m s) b.active)
      have image : ∀ axis, loaded.pending rig.settings.invertMask axis = 0 := by
        intro axis
        show (if (b.directions.directionLines ^^^ rig.settings.invertMask ^^^
          rig.settings.invertMask).contains (Lines.step axis) then 1 else 0) = 0
        rw [Lines.xor_xor, Lines.contains_step_directionLines]
        rfl
      have unbegun := readied.unbegun due
      refine
        { onCourse := ⟨first, course⟩, unbegun := nofun, single := ?_, place := readied.place
          strokes := ?_ }
      · rw [if_pos rfl, Trip.begun, unbegun]
        exact Nat.le_refl 1
      · intro axis
        have before := readied.strokes axis
        have front := made_of_current (m := loaded) current t.begun axis
        rw [blank, made_of_current current] at before
        rw [image, if_pos rfl, front, b.dueIn_begun]
        exact before

theorem setBusy (readied : Ready settings m t place strokes) (busy : Bool) :
    Ready settings (m.setBusy busy) t place strokes := by
  obtain ⟨first, onCourse⟩ := readied.onCourse
  exact readied.congr ⟨first, onCourse.still ⟨rfl, rfl, rfl, rfl⟩⟩ rfl (fun block => block)
    fun _ => rfl

theorem paced (rig : Rig H) (readied : Ready settings m t place strokes) (distance : Int) :
    Ready settings (m.paced rig.watched distance) t place strokes := by
  obtain ⟨first, onCourse⟩ := readied.onCourse
  exact readied.congr ⟨first, onCourse.paced distance⟩ rfl (fun block => block) fun _ => rfl

theorem made_of_unbegun (unbegun : t.stints = []) (m : Machine H capacity) (axis : Axis) :
    m.made t axis = 0 := by
  rw [made]
  split
  · rfl
  · rw [Block.dueIn, unbegun]
    rfl

theorem load_stepEvent_ne_block (rig : Rig H) {m : Machine H capacity} {first : Nat} {b : Block}
    {blocks : List Block} (coherent : Coherent settings m first) (load : m.runtime.load = .nothing)
    (planned : m.planner.blocks = b :: blocks)
    (planner : (Machine.stepEvent rig m).planner = m.planner) :
    (Machine.stepEvent rig m).runtime.load ≠ .block := by
  cases coherent.reaches rig load planned with
  | amid _ other => exact other
  | ends discarded =>
      exact absurd (congrArg BlockQueue.tail (discarded.symm.trans planner))
        (BlockQueue.tail_discard_ne planned)

section StepEvent

variable {b : Block} {blocks : List Block} {n : Nat} {earlier : List Nat}

theorem pending_stepEvent (rig : Rig H) (poised : Poised b n m) (axis : Axis) :
    (Machine.stepEvent rig.watched m).pending rig.settings.invertMask axis =
      if b.stepsAt axis n then 1 else 0 := by
  have staged := poised.staged_stepEvent rig.watched
  rw [pending, staged]
  show (if (eventImage b n ^^^ rig.settings.invertMask ^^^
    rig.settings.invertMask).contains (Lines.step axis) then 1 else 0) = _
  rw [Lines.xor_xor, contains_eventImage]

theorem strokes_stepEvent (readied : Ready rig.settings m t place strokes)
    (staged : m.runtime.staged = none) (planned : m.planner.blocks = b :: blocks)
    (stints : t.stints = n :: earlier) (poised : Poised b n m) (axis : Axis) :
    (Machine.stepEvent rig.watched m).journal.pulses rig.settings.invertMask axis +
      (Machine.stepEvent rig.watched m).pending rig.settings.invertMask axis +
      m.planner.steps axis = strokes axis + b.dueIn axis t.moved.stints := by
  obtain ⟨first, onCourse⟩ := readied.onCourse
  have regular := onCourse.regular_of_planned planned
  have before := readied.strokes axis
  rw [pending_of_none staged, made_of_current (BlockQueue.current?_of_planned planned)] at before
  rw [pending_stepEvent rig poised, OnCourse.dueIn_moved regular axis stints]
  show m.journal.pulses rig.settings.invertMask axis + _ + _ = _
  omega

theorem moved (readied : Ready rig.settings m t place strokes) (staged : m.runtime.staged = none)
    (load : m.runtime.load = .nothing) (planned : m.planner.blocks = b :: blocks)
    (stints : t.stints = n :: earlier) (poised : Poised b n m)
    (onCourse : ∃ first, OnCourse rig.settings (Machine.stepEvent rig.watched m) t.moved first)
    (planner : (Machine.stepEvent rig.watched m).planner = m.planner) :
    Ready rig.settings (Machine.stepEvent rig.watched m) t.moved place strokes := by
  refine { onCourse := onCourse, unbegun := ?_, single := ?_, place := ?_, strokes := ?_ }
  · intro block
    obtain ⟨_, course⟩ := readied.onCourse
    exact absurd block (load_stepEvent_ne_block rig.watched course.coherent load planned planner)
  · rw [Trip.moved, List.length_modifyHead]
    exact readied.single
  · rw [planner]
    exact readied.place
  · intro axis
    have current : (Machine.stepEvent rig.watched m).planner.current? = some b := by
      rw [planner]
      exact BlockQueue.current?_of_planned planned
    rw [made_of_current current, planner]
    exact readied.strokes_stepEvent staged planned stints poised axis

theorem crossed (readied : Ready rig.settings m t place strokes)
    (staged : m.runtime.staged = none) (planned : m.planner.blocks = b :: blocks)
    (stints : t.stints = n :: earlier) (poised : Poised b n m)
    (planner : (Machine.stepEvent rig.watched m).planner = m.planner.discard)
    (whole : t.moved.stints.sum = b.events.toNat)
    (position : ∀ axis, (Machine.stepEvent rig.watched m).position.get axis =
      t.origin.get axis + b.sense axis * b.dueIn axis t.moved.stints)
    (onCourse : OnCourse rig.settings (Machine.stepEvent rig.watched m)
      { origin := (Machine.stepEvent rig.watched m).position } 0) :
    Ready rig.settings (Machine.stepEvent rig.watched m)
      { origin := (Machine.stepEvent rig.watched m).position } place strokes := by
  obtain ⟨_, course⟩ := readied.onCourse
  have regular := course.regular_of_planned planned
  have alone : earlier = [] := by
    have single := readied.single
    rw [stints, List.length_cons] at single
    exact List.eq_nil_of_length_eq_zero (by omega)
  -- With one stint only, the steps due are those of all events at once.
  have all : ∀ axis, b.dueIn axis t.moved.stints = (b.steps.get axis).toNat := by
    intro axis
    rw [Trip.moved, stints, alone] at whole ⊢
    have last : n + 1 = b.events.toNat := by simpa using whole
    show b.dueIn axis [n + 1] = _
    rw [last, Block.dueIn, List.map_singleton, List.sum_singleton, Block.due_all regular]
  refine
    { onCourse := ⟨_, onCourse⟩, unbegun := fun _ => rfl, single := Nat.zero_le 1
      place := ?_, strokes := ?_ }
  · intro axis
    have signed : m.planner.signedSteps axis =
        b.signedSteps axis + m.planner.discard.signedSteps axis :=
      BlockQueue.total_of_planned _ planned
    rw [planner, position axis, all, ← b.signedSteps_eq, Int.add_assoc, ← signed]
    exact readied.place axis
  · intro axis
    have steps : m.planner.steps axis =
        (b.steps.get axis).toNat + m.planner.discard.steps axis :=
      BlockQueue.total_of_planned _ planned
    have after := readied.strokes_stepEvent staged planned stints poised axis
    rw [all, steps] at after
    rw [planner, made_of_unbegun rfl]
    omega

theorem stepEvent (readied : Ready rig.settings m t place strokes)
    (staged : m.runtime.staged = none) (load : m.runtime.load = .nothing) :
    ∃ t', Ready rig.settings (Machine.stepEvent rig.watched m) t' place strokes ∧
      (Machine.stepEvent rig.watched m).unexecuted t' < m.unexecuted t := by
  obtain ⟨first, onCourse⟩ := readied.onCourse
  obtain ⟨b, blocks, n, earlier, planned, stints, poised⟩ :=
    onCourse.poised (ne_of_eq_of_ne load (by decide))
  have remaining := onCourse.sum_stints_lt load planned
  have events : m.planner.events = b.events.toNat + m.planner.discard.events :=
    BlockQueue.total_of_planned _ planned
  cases onCourse.stepEvent rig.watched load with
  | goesOn planner course =>
      refine ⟨t.moved, readied.moved staged load planned stints poised ⟨_, course⟩ planner, ?_⟩
      rw [unexecuted, unexecuted, planner, OnCourse.sum_moved stints]
      omega
  | @crosses b' blocks' planned' planner whole position course =>
      obtain ⟨rfl, _⟩ := List.cons.inj (planned.symm.trans planned')
      refine ⟨_, readied.crossed staged planned stints poised planner whole position course, ?_⟩
      rw [unexecuted, unexecuted, planner, events]
      show m.planner.discard.events - 0 < _
      omega

end StepEvent

end Ready

structure Finished (settings : Settings) (m : Machine (Watched H) capacity) (place : Axis → Int)
    (strokes : Axis → Nat) : Prop where
  coherent : ∃ first, Coherent settings m first
  planner : m.planner.blocks = []
  position : ∀ axis, m.position.get axis = place axis
  pulses : ∀ axis, m.journal.pulses settings.invertMask axis = strokes axis
  runState : m.runState = .idle
  cycleStop : m.cycleStop = true
  ticking : m.ticking = false

inductive Turned (settings : Settings) (m : Machine (Watched H) capacity) (t : Trip)
    (place : Axis → Int) (strokes : Axis → Nat) (m' : Machine (Watched H) capacity) : Prop
  | runs {t' : Trip} :
      Ready settings m' t' place strokes → Running m' → Closer m t m' t' →
      Turned settings m t place strokes m'
  | ends : Finished settings m' place strokes → Turned settings m t place strokes m'

section Tick

variable {rig : Rig H} {m ready : Machine (Watched H) capacity} {t : Trip} {place : Axis → Int}
  {strokes : Axis → Nat} {loadsBlock : Bool}

theorem loadsDue_of_loaded (load : m.runtime.load = .nothing) : m.loadsDue = 0 := by
  rw [loadsDue, load]
  rfl

/-- The rate never falls below the floor, so that a tick without an event brings the next event
closer. -/
theorem nextDistance_lt {m : Machine H capacity} (floor : 0 < rig.settings.minimumStepRate.toNat)
    (ahead : 0 ≤ nextDistance rig m) :
    (nextDistance rig m).toNat < m.runtime.distance.toNat := by
  have rate : 0 < ((nextRamp rig m).ratePerTick rig.settings.minimumStepRate).toNat := by
    rw [Ramp.ratePerTick, Saturating.toNat_max]
    omega
  rw [nextDistance] at ahead ⊢
  omega

theorem closer_of_coasts (floor : 0 < rig.settings.minimumStepRate.toNat)
    (loads : Loads rig.watched m ready loadsBlock)
    (coasts : 0 ≤ nextDistance rig.watched ready ∨ loadsBlock = true) :
    Closer m t ((ready.paced rig.watched (nextDistance rig.watched ready)).setBusy false)
      (if loadsBlock then t.begun else t) := by
  let paced := (ready.paced rig.watched (nextDistance rig.watched ready)).setBusy false
  have done : paced.loadsDue = 0 := loadsDue_of_loaded loads.load
  have planner : paced.planner = m.planner := loads.planner
  have due := loads.due_iff
  have same : paced.unexecuted (if loadsBlock then t.begun else t) = m.unexecuted t := by
    rw [unexecuted, unexecuted, planner]
    cases loadsBlock with
    | false => rfl
    | true => rw [if_pos rfl, Trip.begun, List.sum_cons, Nat.zero_add]
  refine Or.inr ⟨same, ?_⟩
  rw [done]
  cases loadsBlock with
  | true =>
      left
      rw [loadsDue, if_pos (due.mpr rfl)]
      exact Nat.zero_lt_one
  | false =>
      right
      have ahead : 0 ≤ nextDistance rig.watched ready := by simpa using coasts
      have distance : ready.runtime.distance = m.runtime.distance := by
        cases loads <;> rfl
      constructor
      · rw [loadsDue, if_neg fun block => Bool.false_ne_true (due.mp block)]
      · rw [← distance]
        exact nextDistance_lt floor ahead

theorem Ready.advance (floor : 0 < rig.settings.minimumStepRate.toNat)
    (readied : Ready rig.settings m t place strokes) (staged : m.runtime.staged = none)
    (ticking : m.ticking = true) (cycle : m.runState = .cycle)
    (loads : Loads rig.watched m ready loadsBlock) :
    Turned rig.settings m t place strokes (Machine.advance rig.watched ready loadsBlock) := by
  have loaded := readied.loads loads staged
  have cycle' := loads.runState.trans cycle
  have ticking' : ready.ticking = true := by
    rw [Machine.ticking, journal, loads.hardware]
    exact ticking
  generalize advanced : Machine.advance rig.watched ready loadsBlock = m'
  cases Machine.advances advanced with
  | coasts cause =>
      exact .runs ((loaded.paced rig _).setBusy false) ⟨ticking', cycle', rfl⟩
        (closer_of_coasts floor loads cause)
  | steps _ other =>
      subst other
      let distance := nextDistance rig.watched ready + stepDistance ready
      obtain ⟨t', readied', less⟩ := (loaded.paced rig distance).stepEvent
        (loads.staged.trans staged) loads.load
      have same : Machine.unexecuted (ready.paced rig.watched distance) t = m.unexecuted t := by
        rw [unexecuted, unexecuted, ← loads.planner]
        rfl
      exact .runs (readied'.setBusy false) ⟨ticking', cycle', rfl⟩
        (Or.inl (Nat.lt_of_lt_of_eq less same))

theorem Ready.finish {m' : Machine (Watched H) capacity}
    (readied : Ready rig.settings m t place strokes) (staged : m.runtime.staged = none)
    (spent : m.planner.blocks = []) (still : Still m m')
    (pulses : ∀ axis, m'.journal.pulses rig.settings.invertMask axis =
      m.journal.pulses rig.settings.invertMask axis)
    (idle : m'.runState = .idle) (notice : m'.cycleStop = true) (silent : m'.ticking = false) :
    Finished rig.settings m' place strokes := by
  obtain ⟨first, onCourse⟩ := readied.onCourse
  obtain ⟨unbegun, position⟩ := onCourse.unmoved spent
  refine
    { coherent := ⟨first, onCourse.coherent.still still⟩, planner := ?_, position := ?_
      pulses := ?_, runState := idle, cycleStop := notice, ticking := silent }
  · rw [still.planner]
    exact spent
  · intro axis
    have place := readied.place axis
    rw [BlockQueue.signedSteps, BlockQueue.total_of_empty _ spent, Int.add_zero] at place
    rw [still.position, position]
    exact place
  · intro axis
    have strokes := readied.strokes axis
    rw [BlockQueue.steps, BlockQueue.total_of_empty _ spent, Ready.made_of_unbegun unbegun,
      Ready.pending_of_none staged] at strokes
    rw [pulses]
    exact strokes

theorem Turned.of_still {m₀ m' : Machine (Watched H) capacity} (still : Still m m₀)
    (turned : Turned rig.settings m₀ t place strokes m') :
    Turned rig.settings m t place strokes m' := by
  cases turned with
  | ends finished => exact .ends finished
  | @runs t' readied running closer =>
      rw [Closer, unexecuted, unexecuted, loadsDue, loadsDue, still.planner, still.load,
        still.distance] at closer
      exact .runs readied running closer

theorem Ready.tick (faultless : rig.Faultless) (floor : 0 < rig.settings.minimumStepRate.toNat)
    (readied : Ready rig.settings m t place strokes) (running : Running m)
    (fed : m.pipeline.segments.peek? = none → m.planner.blocks = []) :
    Turned rig.settings m t place strokes (m.tick rig.watched) := by
  obtain ⟨m₀, taken, applied⟩ := faultless.applyStaged m rig.settings.invertMask
  have readied₀ := readied.applied applied
  have still : Still m (m₀.setBusy true) := applied.still.trans ⟨rfl, rfl, rfl, rfl⟩
  have cycle : (m₀.setBusy true).runState = .cycle := applied.runState.trans running.cycle
  have ticking : (m₀.setBusy true).ticking = true := applied.ticking.trans running.ticking
  have staged : (m₀.setBusy true).runtime.staged = none := applied.staged
  apply Turned.of_still still
  rcases tick_cases rig.watched m with ⟨busy, _⟩ | ⟨cause, _, refused, _⟩ | ⟨m₁, taken', executes⟩
  · rw [running.free] at busy
    contradiction
  · cases taken.symm.trans refused
  · obtain rfl : m₀ = m₁ := (Prod.mk.inj (taken.symm.trans taken')).2
    generalize m.tick rig.watched = m' at executes
    cases executes with
    | holds hold =>
        rw [cycle] at hold
        contradiction
    | orphaned peeked missing =>
        obtain ⟨first, onCourse⟩ := readied₀.onCourse
        exact absurd missing (onCourse.coherent.never_orphaned peeked)
    | advances loads => exact readied₀.advance floor staged ticking cycle loads
    | runsDry _ _ empty =>
        have spent : (m₀.setBusy true).planner.blocks = [] := by
          rw [still.pipeline] at empty
          rw [still.planner]
          exact fed empty
        obtain ⟨kept, idle, notice, silent, pulses⟩ :=
          faultless.finishCycle (m₀.setBusy true) cycle
        exact .ends (readied₀.finish staged spent kept (pulses _) idle notice silent)

end Tick

end StepPulse
