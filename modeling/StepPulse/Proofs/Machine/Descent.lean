import StepPulse.Proofs.Machine.Passage
import StepPulse.Proofs.Machine.Provenance
import StepPulse.Proofs.Segment.Marks

/-!
Deceleration starts at the breakpoint. Beside the machine a survey is kept: which blocks slicing has
taken up, with the breakpoints that were found for them, and in which phase the ramp was at each step
event since the front block was last loaded. A block that leaves the planner leaves its execution
behind, and in each of these the ramp turns down exactly at the breakpoint of the block.
-/

namespace StepPulse

open Machine

variable {H : Type} {capacity : Nat}

structure Execution where
  job : Job
  loads : Nat
  before : Nat
  phases : List RampPhase
  deriving DecidableEq, Repr

structure Survey where
  /-- The blocks that were taken up and have not left the planner. -/
  jobs : List Job := []
  passed : Nat := 0
  loads : Nat := 0
  before : Nat := 0
  phases : List RampPhase := []
  finished : List Execution := []
  deriving DecidableEq, Repr

namespace Survey

def restarted (v : Survey) : Survey := { finished := v.finished }

def begun (v : Survey) : Survey :=
  { v with loads := v.loads + 1, before := v.passed, phases := [] }

def ending (v : Survey) : List Execution :=
  v.jobs.head?.toList.map fun job => ⟨job, v.loads, v.before, v.phases⟩

def noted (phase : RampPhase) (v : Survey) : Survey := { v with phases := v.phases ++ [phase] }

def stepped (m' : Machine H capacity) (v : Survey) : Survey :=
  let v := v.noted m'.runtime.ramp.phase
  match m'.runtime.load with
  | .nothing => v
  | .segment => { v with passed := v.passed + m'.runtime.segment.steps.toNat }
  | .block => { jobs := v.jobs.tail, finished := v.finished ++ v.ending }

def ticked (m m' : Machine H capacity) (v : Survey) : Survey :=
  if m.runtime.busy then v
  else if m.runtime.load = .block then if m'.runtime.load = .nothing then v.begun else v
  else if m'.runtime.staged = none then v
  else v.stepped m'

end Survey

/-- Slicing adds the blocks that it takes up, ticks execute them, and a restart forgets what was
under way. -/
def Machine.survey (rig : Rig H) : Recorder H capacity Survey := fun m op m' v =>
  match op with
  | .init => v.restarted
  | .reset => v.restarted
  | .prepareSegments =>
    { v with
      jobs := v.jobs ++
        m.pipeline.takings m.planner.source rig.sizing rig.settings SegmentRing.capacity }
  | .tick => v.ticked m m'
  | _ => v

/-- The ramp goes up or level at the step events ahead of a breakpoint, and down at those beyond it;
the first phase is that of the event after `before` others. -/
structure Graded (breakpoint before : Nat) (phases : List RampPhase) : Prop where
  ahead : ∀ {i : Nat} {phase : RampPhase}, phases[i]? = some phase → before + i < breakpoint →
    phase = .accel ∨ phase = .cruise
  beyond : ∀ {i : Nat} {phase : RampPhase}, phases[i]? = some phase → breakpoint ≤ before + i →
    phase = .decel

namespace Graded

variable {breakpoint before : Nat} {phases : List RampPhase} {phase : RampPhase}

protected theorem nil (breakpoint before : Nat) : Graded breakpoint before [] := by
  constructor
  · intro i phase found
    contradiction
  · intro i phase found
    contradiction

theorem of_concat {i : Nat} {phase' : RampPhase} (found : (phases ++ [phase])[i]? = some phase') :
    phases[i]? = some phase' ∨ i = phases.length ∧ phase' = phase := by
  rw [List.getElem?_append] at found
  split at found
  · exact Or.inl found
  · next past =>
    rw [List.getElem?_singleton] at found
    split at found
    · next last => exact Or.inr ⟨by omega, (Option.some.inj found).symm⟩
    · contradiction

theorem concat (graded : Graded breakpoint before phases)
    (turns : phase = .decel ↔ breakpoint ≤ before + phases.length) :
    Graded breakpoint before (phases ++ [phase]) := by
  constructor
  · intro i phase' found ahead
    rcases of_concat found with found | ⟨rfl, rfl⟩
    · exact graded.ahead found ahead
    · cases phase' with
      | accel => exact Or.inl rfl
      | cruise => exact Or.inr rfl
      | decel => exact absurd (turns.mp rfl) (Nat.not_le.mpr ahead)
  · intro i phase' found beyond
    rcases of_concat found with found | ⟨rfl, rfl⟩
    · exact graded.beyond found beyond
    · exact turns.mpr beyond

end Graded

/-- The whole block was executed, with the descent from its breakpoint on. -/
structure Execution.Descends (e : Execution) : Prop where
  atOnce : e.loads = 1 → e.before = 0
  complete : e.before + e.phases.length = e.job.events
  graded : Graded e.job.breakpoint.toNat e.before e.phases

structure UnderWay (m : Machine H capacity) (v : Survey) (job : Job) : Prop where
  loaded : v.loads ≠ 0
  counted : v.before + v.phases.length = v.passed + m.executed
  graded : Graded job.breakpoint.toNat v.before v.phases
  descending : m.runtime.ramp.phase = .decel → job.breakpoint.toNat ≤ v.passed
  turned : m.runtime.load = .nothing → job.breakpoint.toNat ≤ v.passed →
    m.runtime.ramp.phase = .decel

theorem UnderWay.congr {m m' : Machine H capacity} {v : Survey} {job : Job}
    (underWay : UnderWay m v job) (load : m'.runtime.load = m.runtime.load)
    (segment : m'.runtime.segment = m.runtime.segment)
    (stepsRemaining : m'.runtime.stepsRemaining = m.runtime.stepsRemaining)
    (phase : m'.runtime.ramp.phase = .decel ↔ m.runtime.ramp.phase = .decel) :
    UnderWay m' v job := by
  have executed : m'.executed = m.executed := by
    rw [executed, executed, load, segment, stepsRemaining]
  constructor
  case loaded => exact underWay.loaded
  case counted =>
    rw [executed]
    exact underWay.counted
  case graded => exact underWay.graded
  case descending =>
    rw [phase]
    exact underWay.descending
  case turned =>
    rw [load, phase]
    exact underWay.turned

structure Surveyed (settings : Settings) (m : Machine H capacity) (v : Survey) : Prop where
  coherent : Coherent settings m v.passed
  charted : Charted settings m.planner m.pipeline v.passed v.jobs
  unloaded : v.loads = 0 → v.passed = 0
  atOnce : v.loads = 1 → v.before = 0
  underWay : m.runtime.load ≠ .block → ∃ job later, v.jobs = job :: later ∧ UnderWay m v job
  finished : ∀ e ∈ v.finished, e.Descends

namespace Surveyed

variable {rig : Rig H} {settings : Settings} {m m' ready : Machine H capacity} {v : Survey}
  {loadsBlock : Bool}

theorem congr (surveyed : Surveyed settings m v) (coherent : Coherent settings m' v.passed)
    (planner : m'.planner = m.planner) (pipeline : m'.pipeline = m.pipeline)
    (load : m'.runtime.load = m.runtime.load) (segment : m'.runtime.segment = m.runtime.segment)
    (stepsRemaining : m'.runtime.stepsRemaining = m.runtime.stepsRemaining)
    (phase : m'.runtime.ramp.phase = .decel ↔ m.runtime.ramp.phase = .decel) :
    Surveyed settings m' v := by
  constructor
  case coherent => exact coherent
  case charted =>
    rw [planner, pipeline]
    exact surveyed.charted
  case unloaded => exact surveyed.unloaded
  case atOnce => exact surveyed.atOnce
  case underWay =>
    rw [load]
    intro begun
    obtain ⟨job, later, jobs, underWay⟩ := surveyed.underWay begun
    exact ⟨job, later, jobs, underWay.congr load segment stepsRemaining phase⟩
  case finished => exact surveyed.finished

theorem still (surveyed : Surveyed settings m v) (still : Still m m') : Surveyed settings m' v := by
  apply surveyed.congr (surveyed.coherent.still still) still.planner still.pipeline still.load
    still.segment still.stepsRemaining
  rw [still.runtime]

theorem requestBlock (surveyed : Surveyed settings m v) : Surveyed settings m.requestBlock v :=
  { surveyed with
    coherent := surveyed.coherent.requestBlock
    underWay := fun begun => absurd rfl begun }

theorem reset (surveyed : Surveyed settings m v) : Surveyed settings m.reset v.restarted :=
  { coherent := surveyed.coherent.reset
    charted := Charted.reset settings m.planner m.pipeline
    unloaded := fun _ => rfl
    atOnce := fun _ => rfl
    underWay := fun begun => absurd rfl begun
    finished := surveyed.finished }

protected theorem fresh (settings : Settings) (hardware : H) {q : BlockQueue capacity}
    (eventful : ∀ b ∈ q.blocks, b.events ≠ 0) :
    Surveyed settings (Machine.fresh hardware q) {} :=
  { coherent := Coherent.fresh settings hardware eventful
    charted := Charted.reset settings q {}
    unloaded := fun _ => rfl
    atOnce := fun _ => rfl
    underWay := fun begun => absurd rfl begun
    finished := fun _ member => absurd member List.not_mem_nil }

theorem queued (surveyed : Surveyed settings m v) {b : Block} {number : UInt64}
    {planner : BlockQueue capacity} (pushed : m.planner.push b = .ok (number, planner)) :
    Surveyed settings { m with planner := planner } v :=
  { surveyed with
    coherent := surveyed.coherent.queued pushed
    charted := surveyed.charted.push pushed
    underWay := by
      intro begun
      obtain ⟨job, later, jobs, underWay⟩ := surveyed.underWay begun
      exact ⟨job, later, jobs, underWay.congr rfl rfl rfl Iff.rfl⟩ }

theorem fill (surveyed : Surveyed settings m v) {sizing : Sizing} {room count : Nat} {p : Pipeline}
    (filled : m.pipeline.fill m.planner.source sizing settings room = .ok (p, count)) :
    Surveyed settings { m with pipeline := p }
      { v with jobs := v.jobs ++ m.pipeline.takings m.planner.source sizing settings room } := by
  constructor
  case coherent => exact surveyed.coherent.fill filled
  case charted => exact surveyed.charted.fill surveyed.coherent.aligned filled
  case unloaded => exact surveyed.unloaded
  case atOnce => exact surveyed.atOnce
  case underWay =>
    intro begun
    obtain ⟨job, later, jobs, underWay⟩ := surveyed.underWay begun
    have onwards : UnderWay { m with pipeline := p } v job := underWay.congr rfl rfl rfl Iff.rfl
    refine ⟨job, later ++ m.pipeline.takings m.planner.source sizing settings room, ?_,
      { onwards with counted := onwards.counted }⟩
    rw [jobs, List.cons_append]
  case finished => exact surveyed.finished

theorem front (surveyed : Surveyed settings m v) {s : Segment}
    (peeked : m.pipeline.segments.peek? = some s) :
    ∃ job later segments blocks slot, v.jobs = job :: later ∧
      m.pipeline.segments.toList = s :: segments ∧ m.planner.blocks = job.block :: blocks ∧
      Marked job v.passed s ∧ CutFrom m.pipeline.blocks settings slot v.passed job.block s := by
  obtain ⟨segments, b, blocks, slot, queued, planned, cut⟩ := surveyed.coherent.front peeked
  obtain ⟨job, later, _, jobs, planned', marked⟩ := surveyed.charted.front queued
  obtain ⟨rfl, _⟩ := List.cons.inj (planned.symm.trans planned')
  exact ⟨job, later, segments, blocks, slot, jobs, queued, planned, marked, cut⟩

theorem phase_finishLoad (rig : Rig H) (m : Machine H capacity) :
    (finishLoad rig m).runtime.ramp.phase = .decel ↔
      m.runtime.segment.decelerates = true ∨ m.runtime.ramp.phase = .decel := by
  simp only [finishLoad]
  split
  · next slower => simp [slower, Ramp.phase_beginDeceleration]
  · next other => simp [other]

theorem loads (surveyed : Surveyed settings m v) (loads : Loads rig m ready loadsBlock) :
    Surveyed settings ready (if loadsBlock then v.begun else v) := by
  have coherent := surveyed.coherent.loads loads
  have load := loads.load
  cases loads with
  | nothing => exact surveyed
  | @segment s due peeked =>
      -- The ramp turns down exactly when the segment is marked as one beyond the breakpoint.
      have open_ : m.runtime.load ≠ .block := ne_of_eq_of_ne due Load.noConfusion
      obtain ⟨job, later, jobs, underWay⟩ := surveyed.underWay open_
      obtain ⟨job', _, _, _, _, jobs', _, _, marked, _⟩ := surveyed.front peeked
      obtain ⟨rfl, _⟩ := List.cons.inj (jobs.symm.trans jobs')
      have phase := phase_finishLoad rig (loadSegment m s)
      have counted := underWay.counted
      rw [executed_of_due (ne_of_eq_of_ne due Load.noConfusion)] at counted
      refine { surveyed with coherent := coherent, underWay := fun _ => ⟨job, later, jobs, ?_⟩ }
      constructor
      case loaded => exact underWay.loaded
      case counted =>
        rw [executed_of_loaded load]
        show v.before + v.phases.length = v.passed + (s.steps.toNat - s.steps.toNat)
        rw [counted, Nat.sub_self]
      case graded => exact underWay.graded
      case descending =>
        intro decel
        rcases phase.mp decel with slower | already
        · exact marked.decelerates.mp slower
        · exact underWay.descending already
      case turned =>
        intro _ beyond
        exact phase.mpr (Or.inl (marked.decelerates.mpr beyond))
  | @block s b due peeked current =>
      obtain ⟨job, later, _, _, _, jobs, _, _, marked, _⟩ := surveyed.front peeked
      have phase := phase_finishLoad rig (loadBlock rig (loadSegment m s) b.active)
      refine
        { coherent := coherent, charted := surveyed.charted
          unloaded := fun none => absurd none (Nat.succ_ne_zero _)
          atOnce := fun once => surveyed.unloaded (Nat.succ.inj once)
          underWay := fun _ => ⟨job, later, jobs, ?_⟩, finished := surveyed.finished }
      constructor
      case loaded => exact Nat.succ_ne_zero _
      case counted =>
        rw [executed_of_loaded load]
        show v.passed + 0 = v.passed + (s.steps.toNat - s.steps.toNat)
        rw [Nat.sub_self]
      case graded => exact Graded.nil _ _
      case descending =>
        intro decel
        rcases phase.mp decel with slower | climbing
        · exact marked.decelerates.mp slower
        · contradiction
      case turned =>
        intro _ beyond
        exact phase.mpr (Or.inl (marked.decelerates.mpr beyond))

theorem paced (surveyed : Surveyed settings m v) (distance : Int) :
    Surveyed settings (m.paced rig distance) v :=
  surveyed.congr (surveyed.coherent.paced _) rfl rfl rfl rfl rfl Ramp.phase_update

end Surveyed

inductive Leaves (m m' : Machine H capacity) (v v' : Survey) : Prop
  | nothing : m'.planner.tail = m.planner.tail → v'.finished = v.finished → Leaves m m' v v'
  | block {e : Execution} {blocks : List Block} :
      m.planner.blocks = e.job.block :: blocks → m'.planner = m.planner.discard →
      v'.finished = v.finished ++ [e] → Leaves m m' v v'

theorem Leaves.congr {m m₀ m' m₀' : Machine H capacity} {v v' : Survey} (leaves : Leaves m₀ m₀' v v')
    (before : m₀.planner = m.planner) (after : m'.planner = m₀'.planner) : Leaves m m' v v' := by
  cases leaves with
  | nothing tail finished =>
      rw [← after, before] at tail
      exact .nothing tail finished
  | block planned discarded finished =>
      rw [before] at planned discarded
      exact .block planned (after.trans discarded) finished

def Goes (settings : Settings) (m m' : Machine H capacity) (v v' : Survey) : Prop :=
  Surveyed settings m' v' ∧ Leaves m m' v v'

section StepEvent

variable {settings : Settings} {m : Machine H capacity} {v : Survey} {job : Job} {later : List Job}

/-- At a step event the ramp goes down if the event lies beyond the breakpoint. No segment reaches
across it, so that the segment in execution is wholly on one side. -/
theorem UnderWay.turns (underWay : UnderWay m v job) (load : m.runtime.load = .nothing)
    (marked : Marked job v.passed m.runtime.segment) (left : 0 < m.runtime.stepsRemaining.toNat)
    (within : m.runtime.stepsRemaining.toNat ≤ m.runtime.segment.steps.toNat) :
    m.runtime.ramp.phase = .decel ↔ job.breakpoint.toNat ≤ v.before + v.phases.length := by
  have counted := underWay.counted
  rw [executed_of_loaded load] at counted
  constructor
  · intro decel
    have behind := underWay.descending decel
    omega
  · intro beyond
    apply underWay.turned load
    by_contra ahead
    have unbroken := marked.unbroken (Nat.not_le.mp ahead)
    omega

theorem Surveyed.within (rig : Rig H) (surveyed : Surveyed settings m v)
    (load : m.runtime.load = .nothing) (jobs : v.jobs = job :: later) (underWay : UnderWay m v job)
    (graded : Graded job.breakpoint.toNat v.before (v.phases ++ [m.runtime.ramp.phase]))
    (more : 1 < m.runtime.stepsRemaining.toNat) (planner : (stepEvent rig m).planner = m.planner)
    (pipeline : (stepEvent rig m).pipeline = m.pipeline)
    (loaded : (stepEvent rig m).runtime.load = m.runtime.load) :
    Surveyed settings (stepEvent rig m) (v.noted m.runtime.ramp.phase) := by
  have coherent := surveyed.coherent.stepEvent rig load
  have bound := surveyed.coherent.within load
  have left := toNat_stepsRemaining_stepEvent rig m
  have counted := underWay.counted
  rw [executed_of_loaded load] at counted
  rw [Coherent.passed, if_pos more] at coherent
  constructor
  case coherent => exact coherent
  case charted =>
    rw [planner, pipeline]
    exact surveyed.charted
  case unloaded => exact surveyed.unloaded
  case atOnce => exact surveyed.atOnce
  case underWay =>
    intro _
    refine ⟨job, later, jobs, ?_⟩
    constructor
    case loaded => exact underWay.loaded
    case counted =>
      rw [executed_of_loaded (loaded.trans load), Survey.noted, List.length_append]
      show v.before + (v.phases.length + 1) = v.passed + (m.runtime.segment.steps.toNat - _)
      omega
    case graded => exact graded
    case descending => exact underWay.descending
    case turned => exact fun _ => underWay.turned load
  case finished => exact surveyed.finished

theorem Surveyed.leavesSegment (rig : Rig H) (surveyed : Surveyed settings m v)
    (load : m.runtime.load = .nothing) (jobs : v.jobs = job :: later) (underWay : UnderWay m v job)
    (graded : Graded job.breakpoint.toNat v.before (v.phases ++ [m.runtime.ramp.phase]))
    (last : m.runtime.stepsRemaining.toNat ≤ 1) (open_ : m.runtime.segment.endsBlock = false)
    (charted : Charted settings (stepEvent rig m).planner (stepEvent rig m).pipeline
      (v.passed + m.runtime.segment.steps.toNat) v.jobs)
    (due : (stepEvent rig m).runtime.load = .segment) :
    Surveyed settings (stepEvent rig m)
      { v.noted m.runtime.ramp.phase with passed := v.passed + m.runtime.segment.steps.toNat } := by
  have coherent := surveyed.coherent.stepEvent rig load
  have positive := surveyed.coherent.left load
  have bound := surveyed.coherent.within load
  have counted := underWay.counted
  rw [executed_of_loaded load] at counted
  rw [Coherent.passed, if_neg (Nat.not_lt.mpr last), open_] at coherent
  constructor
  case coherent => exact coherent
  case charted => exact charted
  case unloaded => exact fun none => absurd none underWay.loaded
  case atOnce => exact surveyed.atOnce
  case underWay =>
    intro _
    refine ⟨job, later, jobs, ?_⟩
    constructor
    case loaded => exact underWay.loaded
    case counted =>
      rw [executed_of_due (ne_of_eq_of_ne due Load.noConfusion), Survey.noted, List.length_append]
      show v.before + (v.phases.length + 1) = v.passed + m.runtime.segment.steps.toNat + 0
      omega
    case graded => exact graded
    case descending =>
      exact fun decel => Nat.le_trans (underWay.descending decel) (Nat.le_add_right _ _)
    case turned =>
      intro nothing
      rw [due] at nothing
      contradiction
  case finished => exact surveyed.finished

theorem Surveyed.leavesBlock (rig : Rig H) (surveyed : Surveyed settings m v)
    (load : m.runtime.load = .nothing) (underWay : UnderWay m v job)
    (graded : Graded job.breakpoint.toNat v.before (v.phases ++ [m.runtime.ramp.phase]))
    (last : m.runtime.stepsRemaining.toNat ≤ 1) (ends : m.runtime.segment.endsBlock = true)
    (whole : v.passed + m.runtime.segment.steps.toNat = job.events)
    (charted : Charted settings (stepEvent rig m).planner (stepEvent rig m).pipeline 0 later)
    (due : (stepEvent rig m).runtime.load = .block) :
    Surveyed settings (stepEvent rig m)
      { jobs := later
        finished := v.finished ++
          [⟨job, v.loads, v.before, v.phases ++ [m.runtime.ramp.phase]⟩] } := by
  have coherent := surveyed.coherent.stepEvent rig load
  have positive := surveyed.coherent.left load
  have bound := surveyed.coherent.within load
  have counted := underWay.counted
  rw [executed_of_loaded load] at counted
  rw [Coherent.passed, if_neg (Nat.not_lt.mpr last), ends] at coherent
  constructor
  case coherent => exact coherent
  case charted => exact charted
  case unloaded => exact fun _ => rfl
  case atOnce => exact fun _ => rfl
  case underWay => exact fun begun => absurd due begun
  case finished =>
    intro e member
    rcases List.mem_append.mp member with old | new
    · exact surveyed.finished e old
    · rw [List.mem_singleton.mp new]
      constructor
      case atOnce => exact surveyed.atOnce
      case complete =>
        rw [List.length_append]
        show v.before + (v.phases.length + 1) = job.events
        omega
      case graded => exact graded

theorem Surveyed.stepEvent (rig : Rig H) (surveyed : Surveyed settings m v)
    (load : m.runtime.load = .nothing) :
    Goes settings m (Machine.stepEvent rig m) v (v.stepped (Machine.stepEvent rig m)) := by
  obtain ⟨job, later, jobs, underWay⟩ := surveyed.underWay (ne_of_eq_of_ne load Load.noConfusion)
  obtain ⟨job', _, segments, blocks, slot, jobs', queued, planned, marked, cut⟩ :=
    surveyed.front (surveyed.coherent.executing load)
  obtain ⟨rfl, _⟩ := List.cons.inj (jobs.symm.trans jobs')
  have charted := surveyed.charted.advance surveyed.coherent.aligned.ring queued
  have turns := underWay.turns load marked (surveyed.coherent.left load)
    (surveyed.coherent.within load)
  have graded := underWay.graded.concat turns
  cases completion rig m with
  | within more planner pipeline loaded =>
      have noted : v.stepped (Machine.stepEvent rig m) = v.noted m.runtime.ramp.phase := by
        simp only [Survey.stepped, loaded, load]
        rfl
      rw [noted]
      constructor
      · exact surveyed.within rig load jobs underWay graded more planner pipeline loaded
      · exact .nothing (congrArg BlockQueue.tail planner) rfl
  | segment last open_ planner pipeline due =>
      have noted : v.stepped (Machine.stepEvent rig m) =
          { v.noted m.runtime.ramp.phase with
            passed := v.passed + m.runtime.segment.steps.toNat } := by
        simp only [Survey.stepped, due]
        rfl
      rw [open_, ← pipeline] at charted
      rw [noted]
      constructor
      · apply surveyed.leavesSegment rig load jobs underWay graded last open_ _ due
        rw [planner]
        exact charted
      · exact .nothing (congrArg BlockQueue.tail planner) rfl
  | block last ends planner pipeline due =>
      have noted : v.stepped (Machine.stepEvent rig m) =
          { jobs := later
            finished := v.finished ++
              [⟨job, v.loads, v.before, v.phases ++ [m.runtime.ramp.phase]⟩] } := by
        simp only [Survey.stepped, due, Survey.ending, Survey.noted, jobs]
        rfl
      rw [ends, jobs, ← pipeline] at charted
      rw [noted]
      constructor
      · apply surveyed.leavesBlock rig load underWay graded last ends (cut.ends.mp ends) _ due
        rw [planner]
        exact charted
      · exact .block planned planner rfl

end StepEvent

namespace Surveyed

variable {rig : Rig H} {settings : Settings} {m m' ready : Machine H capacity} {v : Survey}

theorem ticked_resting (due : m.runtime.load = .block → m'.runtime.load ≠ .nothing)
    (staged : m'.runtime.staged = none) : v.ticked m m' = v := by
  rw [Survey.ticked]
  split
  · rfl
  · split
    · next block => rw [if_neg (due block)]
    · rfl

theorem ticked_loading (free : m.runtime.busy = false) (due : m.runtime.load = .block)
    (load : m'.runtime.load = .nothing) : v.ticked m m' = v.begun := by
  rw [Survey.ticked, free, if_neg Bool.false_ne_true, if_pos due, if_pos load]

theorem ticked_stepping (free : m.runtime.busy = false) (other : m.runtime.load ≠ .block)
    (staged : m'.runtime.staged ≠ none) : v.ticked m m' = v.stepped m' := by
  rw [Survey.ticked, free, if_neg Bool.false_ne_true, if_neg other, if_neg staged]

theorem rests (surveyed : Surveyed settings m v) (still : Still m m')
    (staged : m'.runtime.staged = none) : Goes settings m m' v (v.ticked m m') := by
  have due : m.runtime.load = .block → m'.runtime.load ≠ .nothing := by
    intro block
    rw [still.load, block]
    exact Load.noConfusion
  rw [ticked_resting due staged]
  exact ⟨surveyed.still still, .nothing (congrArg BlockQueue.tail still.planner) rfl⟩

theorem executes {m₀ : Machine H capacity} (surveyed : Surveyed rig.settings m v)
    (free : m.runtime.busy = false) (still : Still m m₀) (staged : m₀.runtime.staged = none)
    (executes : Executes rig m₀ m') : Goes rig.settings m m' v (v.ticked m m') := by
  have before := surveyed.still still
  cases executes with
  | holds => exact surveyed.rests (still.trans (still_finishHold rig m₀)) staged
  | runsDry =>
      exact surveyed.rests (still.trans (still_finishCycle rig m₀))
        ((staged_finishCycle rig m₀).trans staged)
  | orphaned queued missing => exact absurd missing (before.coherent.never_orphaned queued)
  | @advances ready loadsBlock loads =>
      have loaded := before.loads loads
      have planner : ready.planner = m.planner := loads.planner.trans still.planner
      have due := loads.due_iff
      rw [still.load] at due
      have advances : Advances rig ready loadsBlock (advance rig ready loadsBlock) :=
        Machine.advances rfl
      generalize advance rig ready loadsBlock = m' at advances
      cases advances with
      | coasts =>
          have ticked : v.ticked m ((ready.paced rig (nextDistance rig ready)).setBusy false) =
              if loadsBlock then v.begun else v := by
            cases loadsBlock with
            | true => exact ticked_loading free (due.mpr rfl) loads.load
            | false =>
                apply ticked_resting
                · intro block
                  exact absurd (due.mp block) Bool.false_ne_true
                · exact loads.staged.trans staged
          rw [ticked]
          refine ⟨(loaded.paced _).still ⟨rfl, rfl, rfl, rfl⟩, ?_⟩
          apply Leaves.nothing
          · exact congrArg BlockQueue.tail planner
          · split <;> rfl
      | steps _ other =>
          subst other
          have unloaded : m.runtime.load ≠ .block := fun block =>
            Bool.false_ne_true (due.mp block)
          obtain ⟨stepped, leaves⟩ :=
            (loaded.paced (nextDistance rig ready + stepDistance ready)).stepEvent rig loads.load
          rw [ticked_stepping free unloaded (Option.some_ne_none _)]
          exact ⟨stepped.still ⟨rfl, rfl, rfl, rfl⟩, leaves.congr planner rfl⟩

theorem tick (surveyed : Surveyed rig.settings m v) :
    Goes rig.settings m (m.tick rig) v (v.ticked m (m.tick rig)) := by
  have staged := staged_applyStaged rig m
  cases busy : m.runtime.busy with
  | true =>
      have idle : v.ticked m m = v := by rw [Survey.ticked, if_pos busy]
      rw [tick_busy busy, idle]
      exact ⟨surveyed, .nothing rfl rfl⟩
  | false =>
      rcases tick_cases rig m with ⟨held, _⟩ | ⟨cause, m₀, refused, same⟩ | ⟨m₀, taken, executes⟩
      · rw [busy] at held
        contradiction
      · rw [refused] at staged
        rw [same]
        exact surveyed.rests (still_alarmed refused) staged
      · rw [taken] at staged
        exact surveyed.executes busy (still_begun taken) staged executes

theorem perform {op : Operation} {reply : Reply} (surveyed : Surveyed rig.settings m v)
    (allowed : anyOrder m op) (performed : m.perform rig op = .ok (reply, m')) :
    Goes rig.settings m m' v (survey rig m op m' v) := by
  by_cases slicing : op = .prepareSegments
  · subst slicing
    obtain ⟨p, count, filled, rfl⟩ := prepareSegments_performed performed
    exact ⟨surveyed.fill filled, .nothing rfl rfl⟩
  by_cases ticking : op = .tick
  · subst ticking
    cases performs performed
    exact surveyed.tick
  cases restarts : op.restarts with
  | true =>
      have still := perform_restarts restarts performed
      have forgotten : survey rig m op m' v = v.restarted := by
        cases op <;> first | rfl | contradiction
      rw [forgotten]
      exact ⟨surveyed.reset.still still, .nothing (congrArg BlockQueue.tail still.planner) rfl⟩
  | false =>
      have same : survey rig m op m' v = v := by
        cases op <;> first | rfl | contradiction
      rw [same]
      cases perform_interlude allowed restarts slicing ticking performed with
      | still still =>
          exact ⟨surveyed.still still, .nothing (congrArg BlockQueue.tail still.planner) rfl⟩
      | asked still =>
          exact ⟨surveyed.requestBlock.still still,
            .nothing (congrArg BlockQueue.tail still.planner) rfl⟩
      | queued pushed =>
          refine ⟨surveyed.queued pushed, .nothing ?_ rfl⟩
          obtain ⟨_, _, _, rfl⟩ := BlockQueue.push_eq_ok_iff.mp pushed
          rfl
      | placed axis steps =>
          have coherent : Coherent rig.settings (m.setPosition axis steps) v.passed :=
            surveyed.coherent.congr rfl rfl rfl rfl rfl
          exact ⟨surveyed.congr coherent rfl rfl rfl rfl rfl Iff.rfl, .nothing rfl rfl⟩

theorem run {start : Machine H capacity} (surveyed : Surveyed rig.settings start {})
    (ran : Run rig anyOrder (survey rig) start {} m v) : Surveyed rig.settings m v := by
  induction ran with
  | start => exact surveyed
  | step _ allowed performed ih => exact (ih.perform allowed performed).1

end Surveyed

/-- Every block that was executed came down from its breakpoint on, which is the one that the planner
had for it when it was taken up; and a block leaves the planner only with its execution. -/
structure TurnedAtBreakpoints (rig : Rig H) (m : Machine H capacity) (v : Survey) : Prop where
  executions : ∀ e ∈ v.finished, e.Descends
  found : ∀ {m' : Machine H capacity}, ∀ job ∈ (survey rig m .prepareSegments m' v).jobs,
    job ∈ v.jobs ∨ ∃ number, m.planner.block? number = some job.block ∧
      m.planner.breakpoint number = .ok job.breakpoint
  leaves : ∀ {op : Operation} {reply : Reply} {m' : Machine H capacity}, anyOrder m op →
    m.perform rig op = .ok (reply, m') → Leaves m m' v (survey rig m op m' v)

/-- Whatever sizes are asked for, whenever segments are prepared and however often motion is held and
resumed, the ramp turns down exactly at the breakpoint that was found for a block when slicing took
it up. That is said of the step events since the last load of the block; when a wake-up did not have
it loaded again, these are all of its events. -/
theorem deceleration_starts_at_breakpoint (rig : Rig H) (hardware : H) {q : BlockQueue capacity}
    (eventful : ∀ b ∈ q.blocks, b.events ≠ 0) {m : Machine H capacity} {v : Survey}
    (ran : Run rig anyOrder (survey rig) (Machine.fresh hardware q) {} m v) :
    TurnedAtBreakpoints rig m v := by
  have surveyed := (Surveyed.fresh rig.settings hardware eventful).run ran
  constructor
  case executions => exact surveyed.finished
  case found =>
    intro m' job member
    rcases List.mem_append.mp member with old | new
    · exact Or.inl old
    · exact Or.inr (Pipeline.found_of_takings new)
  case leaves =>
    intro op reply m' allowed performed
    exact (surveyed.perform allowed performed).2

def climbBlock : Block := { Block.sample with steps := ⟨7, 2, 0⟩, events := 7 }

def heldClimb : List Operation :=
  [.pushBlock climbBlock, .queue, .cycleStart, .prepareSegments, .tick, .tick, .tick, .tick,
    .feedHold, .tick, .cycleStart, .prepareSegments, .tick, .tick, .tick, .tick]

theorem turned_across_hold :
    ∃ (m : Machine Unit 4) (v : Survey),
      Run sampleRig anyOrder (survey sampleRig) (Machine.fresh () {}) {} m v ∧
      v.finished =
        [⟨⟨climbBlock, 3⟩, 1, 0, [.accel, .accel, .accel, .decel, .decel, .decel, .decel]⟩] ∧
      TurnedAtBreakpoints sampleRig m v := by
  have followed : (follow sampleRig (fun _ op => op.keepsBlocks) (survey sampleRig)
      (Machine.fresh () {} : Machine Unit 4) {} heldClimb).any (fun r => r.2.finished ==
        [⟨⟨climbBlock, 3⟩, 1, 0, [.accel, .accel, .accel, .decel, .decel, .decel, .decel]⟩]) =
      true := by
    decide +kernel
  obtain ⟨m, v, ran, shown⟩ := exists_run (fun _ _ keeps => keeps) followed
  exact ⟨m, v, ran, eq_of_beq shown, deceleration_starts_at_breakpoint sampleRig () (by decide) ran⟩

end StepPulse
