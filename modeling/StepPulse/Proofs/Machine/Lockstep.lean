import StepPulse.Proofs.Machine.Journal
import StepPulse.Proofs.Machine.Passage
import StepPulse.Proofs.Machine.Provenance
import StepPulse.Proofs.Machine.Unsegmented

/-!
Segments leave no trace in the motion. As long as no tick finds the ring empty before the planner
is, a machine that executes segments makes the same calls and the same steps as one that has its
blocks whole. Since the latter knows neither rings nor slicing, neither the size of segments nor the
moments of slicing make a difference.
-/

namespace StepPulse

open Machine

variable {H : Type} {capacity : Nat}

/-- The machine without segments is where the other one is; `first` events of the front block lie
before the ring. -/
structure Tracks (rig : Rig H) (m : Machine H capacity) (s : Unsegmented H capacity) (first : Nat) :
    Prop where
  coherent : Coherent rig.settings m first
  streams : ∃ position,
    Streams rig.sizing rig.settings m.planner m.pipeline first position
  machine : s.machine = m.unsegmented
  taken : s.taken = first + m.executed
  unbegun : m.runtime.load = .block → first = 0
  turned : m.runtime.load = .nothing → m.runtime.segment.decelerates = true →
    m.runtime.ramp.phase = .decel
  unheld : m.runState ≠ .hold

namespace Tracks

variable {rig : Rig H} {m m' ready : Machine H capacity} {s : Unsegmented H capacity} {first : Nat}
  {loadsBlock : Bool} {job : Job} {later : List Job}

theorem still (tracks : Tracks rig m s first) (still : Still m m') (unheld : m'.runState ≠ .hold) :
    Tracks rig m' { s with machine := m'.unsegmented } first := by
  constructor
  case coherent => exact tracks.coherent.still still
  case streams =>
    rw [still.planner, still.pipeline]
    exact tracks.streams
  case machine => rfl
  case taken =>
    rw [executed, still.load, still.segment, still.stepsRemaining]
    exact tracks.taken
  case unbegun =>
    rw [still.load]
    exact tracks.unbegun
  case turned =>
    rw [still.runtime]
    exact tracks.turned
  case unheld => exact unheld

theorem decelerates_iff (tracks : Tracks rig m s first) {front : Segment}
    (peeked : m.pipeline.segments.peek? = some front)
    (found : jobs m.planner.blocks = job :: later) {n : Nat} (within : n < front.steps.toNat) :
    front.decelerates = true ↔ job.breakpoint.toNat ≤ first + n := by
  obtain ⟨position, streams⟩ := tracks.streams
  obtain ⟨segments, _, _, _, queued, _, _⟩ := tracks.coherent.front peeked
  obtain ⟨job', later', found', stretch⟩ := streams.front queued
  obtain ⟨rfl, rfl⟩ := List.cons.inj (found.symm.trans found')
  have steps : front.steps.toNat = job.stepsAt rig.sizing rig.settings first :=
    congrArg Stretch.steps stretch
  have flag : front.decelerates = decide (job.breakpoint.toNat ≤ first) :=
    congrArg Stretch.decelerates stretch
  rw [flag, decide_eq_true_iff]
  constructor
  · intro passed
    omega
  · intro passed
    by_contra ahead
    have unbroken := job.stepsAt_le_breakpoint rig.sizing rig.settings (Nat.not_le.mp ahead)
    omega

theorem rates (tracks : Tracks rig m s first) {front : Segment}
    (peeked : m.pipeline.segments.peek? = some front)
    (found : jobs m.planner.blocks = job :: later) :
    (m.pipeline.blocks.get front.slot).rates = Rates.ofBlock job.block rig.settings := by
  obtain ⟨_, b, blocks, slot, _, planned, cut⟩ := tracks.coherent.front peeked
  rw [planned, jobs] at found
  obtain ⟨rfl, _⟩ := List.cons.inj found
  rw [cut.place]
  exact cut.rates

theorem ramp_turned (tracks : Tracks rig m s first) {front : Segment}
    (peeked : m.pipeline.segments.peek? = some front)
    (found : jobs m.planner.blocks = job :: later) {n : Nat} (within : n < front.steps.toNat)
    (taken : s.taken = first + n) (down up : Ramp) :
    (if job.breakpoint.toNat ≤ s.taken then down else up) =
      if front.decelerates then down else up := by
  rw [taken]
  exact if_congr (tracks.decelerates_iff peeked found within).symm rfl rfl

theorem block_found {b : Block} (current : m.planner.current? = some b)
    (found : jobs m.planner.blocks = job :: later) : job.block = b := by
  obtain ⟨blocks, planned⟩ := List.head?_eq_some_iff.mp current
  rw [planned, jobs] at found
  exact congrArg Job.block (List.cons.inj found).1.symm

theorem fresh {s' : Unsegmented H capacity} (tracks : Tracks rig m s first)
    (loads : Loads rig m ready loadsBlock) (due : m.runtime.load ≠ .nothing)
    (machine : s'.machine = ready.unsegmented) (taken : s'.taken = s.taken)
    (left : ready.runtime.stepsRemaining = ready.runtime.segment.steps)
    (turned : ready.runtime.segment.decelerates = true → ready.runtime.ramp.phase = .decel) :
    Tracks rig ready s' first := by
  constructor
  case coherent => exact tracks.coherent.loads loads
  case streams =>
    rw [loads.planner, loads.pipeline]
    exact tracks.streams
  case machine => exact machine
  case taken =>
    have unmoved := tracks.taken
    rw [executed_of_due due] at unmoved
    rw [executed_of_loaded loads.load, left, Nat.sub_self]
    exact taken.trans unmoved
  case unbegun =>
    rw [loads.load]
    exact nofun
  case turned =>
    intro _
    exact turned
  case unheld =>
    rw [loads.runState]
    exact tracks.unheld

theorem loads (tracks : Tracks rig m s first) (loads : Loads rig m ready loadsBlock)
    (found : jobs m.planner.blocks = job :: later) :
    Tracks rig ready (s.loaded rig job) first := by
  have taken := tracks.taken
  obtain ⟨machine, count⟩ := s
  obtain rfl : machine = m.unsegmented := tracks.machine
  cases loads with
  | nothing load =>
      -- Within a segment the ramp is turned already if the segment decelerates.
      have peeked := tracks.coherent.executing load
      have within : m.executed < m.runtime.segment.steps.toNat := by
        have left := tracks.coherent.left load
        have bound := tracks.coherent.within load
        rw [executed_of_loaded load]
        omega
      have begun : m.unsegmented.runtime.load ≠ .block := by
        rw [Ne, unsegmented_due, load]
        decide
      have kept : (if m.runtime.segment.decelerates then
          m.runtime.ramp.beginDeceleration rig.settings.rampPeriod else m.runtime.ramp) =
          m.runtime.ramp := by
        split
        · next slower => exact Ramp.beginDeceleration_of_decel (tracks.turned load slower)
        · rfl
      rw [Unsegmented.loaded_of_begun begun,
        Unsegmented.turned_eq ((tracks.ramp_turned peeked found within taken _ _).trans kept)]
      exact
        { tracks with
          machine := by simp [unsegmented, load] }
  | @segment front due peeked =>
      -- No segment lies across the breakpoint, so both ramps turn at the same event.
      obtain ⟨_, _, _, _, _, _, cut⟩ := tracks.coherent.front peeked
      have amid : m.runtime.load ≠ .nothing := by
        rw [due]
        decide
      have begun : m.unsegmented.runtime.load ≠ .block := by
        rw [Ne, unsegmented_due, due]
        decide
      rw [executed_of_due amid] at taken
      rw [Unsegmented.loaded_of_begun begun,
        Unsegmented.turned_eq (tracks.ramp_turned peeked found cut.positive taken _ _)]
      apply tracks.fresh (.segment due peeked) amid
      case machine => rfl
      case taken => rfl
      case left => rfl
      case turned =>
        intro slower
        exact (congrArg Ramp.phase (if_pos slower)).trans (Ramp.phase_beginDeceleration _ _)
  | @block front b due peeked current =>
      obtain rfl := block_found current found
      obtain ⟨_, _, _, _, _, _, cut⟩ := tracks.coherent.front peeked
      have rates := tracks.rates peeked found
      have amid : m.runtime.load ≠ .nothing := by
        rw [due]
        decide
      rw [executed_of_due amid] at taken
      have turns := tracks.ramp_turned peeked found cut.positive taken
        ((Ramp.start (Rates.ofBlock job.block rig.settings).initial
          rig.settings.rampPeriod).beginDeceleration rig.settings.rampPeriod)
        (Ramp.start (Rates.ofBlock job.block rig.settings).initial rig.settings.rampPeriod)
      rw [Unsegmented.loaded_of_due ((unsegmented_due m).mpr due), Unsegmented.turned_eq turns]
      apply tracks.fresh (.block due peeked current) amid
      case machine =>
        simp only [finishLoad, loadBlock, loadSegment, Unsegmented.begun, unsegmented, rates]
        rfl
      case taken => rfl
      case left => rfl
      case turned =>
        intro slower
        exact (congrArg Ramp.phase (if_pos slower)).trans (Ramp.phase_beginDeceleration _ _)

theorem paced (tracks : Tracks rig m s first) (load : m.runtime.load = .nothing)
    (found : jobs m.planner.blocks = job :: later) (distance : Int) :
    Tracks rig ((paced rig m distance).setBusy false) (s.paced rig job distance) first := by
  have rates := tracks.rates (tracks.coherent.executing load) found
  constructor
  case coherent => exact (tracks.coherent.paced distance).setBusy false
  case streams => exact tracks.streams
  case machine =>
    simp only [Unsegmented.paced, Unsegmented.nextRamp, tracks.machine, ← rates]
    rfl
  case taken => exact tracks.taken
  case unbegun => exact tracks.unbegun
  case turned =>
    intro _ slower
    exact Ramp.phase_update.mpr (tracks.turned load slower)
  case unheld => exact tracks.unheld

theorem machine_stepped (tracks : Tracks rig m s first)
    (planner : (Machine.stepEvent rig m).planner =
      if s.taken + 1 = job.events then m.planner.discard else m.planner)
    (load : (Machine.stepEvent rig m).runtime.load = .block ↔ s.taken + 1 = job.events) :
    (s.stepped rig job).machine = (Machine.stepEvent rig m).unsegmented := by
  simp only [unsegmented, planner, if_congr load rfl rfl, Unsegmented.stepped, tracks.machine]
  rfl

theorem streams_stepEvent (tracks : Tracks rig m s first) (load : m.runtime.load = .nothing) :
    ∃ position, Streams rig.sizing rig.settings (Machine.stepEvent rig m).planner
      (Machine.stepEvent rig m).pipeline (Coherent.passed m first) position := by
  obtain ⟨position, streams⟩ := tracks.streams
  obtain ⟨segments, _, _, _, queued, _, _⟩ :=
    tracks.coherent.front (tracks.coherent.executing load)
  have advanced := streams.advance tracks.coherent.aligned queued
  refine ⟨position, ?_⟩
  cases completion rig m with
  | within more planner pipeline =>
      rw [planner, pipeline, Coherent.passed, if_pos more]
      exact streams
  | segment last open_ planner pipeline =>
      rw [open_] at advanced
      rw [planner, pipeline, Coherent.passed, if_neg (Nat.not_lt.mpr last), open_]
      exact advanced
  | block last closed planner pipeline =>
      rw [closed] at advanced
      rw [planner, pipeline, Coherent.passed, if_neg (Nat.not_lt.mpr last), closed]
      exact advanced

theorem stepEvent (tracks : Tracks rig m s first) (load : m.runtime.load = .nothing)
    (found : jobs m.planner.blocks = job :: later) :
    Tracks rig (Machine.stepEvent rig m) (s.stepped rig job) (Coherent.passed m first) := by
  obtain ⟨_, b, blocks, _, _, planned, _⟩ :=
    tracks.coherent.front (tracks.coherent.executing load)
  obtain rfl := block_found (BlockQueue.current?_of_planned planned) found
  have coherent := tracks.coherent.stepEvent rig load
  have streams := tracks.streams_stepEvent load
  have taken := tracks.taken
  cases tracks.coherent.reaches rig load planned with
  | amid planner other reached more =>
      have amid : ¬ s.taken + 1 = job.events := by
        rw [taken]
        exact Nat.ne_of_lt more
      constructor
      case coherent => exact coherent
      case streams => exact streams
      case machine =>
        apply tracks.machine_stepped
        · rw [planner, if_neg amid]
        · exact iff_of_false other amid
      case taken =>
        rw [reached, ← taken]
        exact if_neg amid
      case unbegun =>
        intro due
        exact absurd due other
      case turned =>
        intro _
        exact tracks.turned load
      case unheld => exact tracks.unheld
  | ends planner due passes whole =>
      have done : s.taken + 1 = job.events := by rwa [taken]
      constructor
      case coherent => exact coherent
      case streams => exact streams
      case machine =>
        apply tracks.machine_stepped
        · rw [planner, if_pos done]
        · exact iff_of_true due done
      case taken =>
        rw [passes, executed_of_due (ne_of_eq_of_ne due (by decide))]
        exact if_pos done
      case unbegun =>
        intro _
        exact passes
      case turned =>
        rw [due]
        exact nofun
      case unheld => exact tracks.unheld

theorem advances (tracks : Tracks rig m s first) (load : m.runtime.load = .nothing)
    (found : jobs m.planner.blocks = job :: later) (loadsBlock : Bool) :
    ∃ first', Tracks rig (Machine.advance rig m loadsBlock) (s.advanced rig job loadsBlock) first' := by
  have rates := tracks.rates (tracks.coherent.executing load) found
  have ramp : s.nextRamp rig job = Machine.nextRamp rig m := by
    simp only [Unsegmented.nextRamp, Machine.nextRamp, rates, tracks.machine]
    rfl
  have distance : s.nextDistance rig job = Machine.nextDistance rig m := by
    rw [Unsegmented.nextDistance, Machine.nextDistance, ramp, tracks.machine]
    rfl
  have stepDistance : (Rates.ofBlock job.block rig.settings).stepDistance.toNat =
      Machine.stepDistance m := by
    rw [Machine.stepDistance, rates]
  have advances : Advances rig m loadsBlock (advance rig m loadsBlock) := Machine.advances rfl
  simp only [Unsegmented.advanced, distance, stepDistance]
  generalize advance rig m loadsBlock = m' at advances ⊢
  cases advances with
  | coasts rest =>
      have still : ¬ (Machine.nextDistance rig m < 0 ∧ ¬ loadsBlock = true) := by
        rintro ⟨negative, other⟩
        exact rest.elim (Int.not_le.mpr negative) other
      rw [if_neg still]
      exact ⟨first, tracks.paced load found _⟩
  | steps negative other =>
      rw [if_pos ⟨negative, Bool.eq_false_iff.mp other⟩]
      exact ⟨_, (tracks.paced load found _).stepEvent load found⟩

theorem found_of_loads (tracks : Tracks rig m s first) (loads : Loads rig m ready loadsBlock) :
    ∃ job later, jobs m.planner.blocks = job :: later := by
  have peeked : ∃ front, m.pipeline.segments.peek? = some front := by
    cases loads with
    | nothing load => exact ⟨_, tracks.coherent.executing load⟩
    | segment _ peeked => exact ⟨_, peeked⟩
    | block _ peeked _ => exact ⟨_, peeked⟩
  obtain ⟨front, peeked⟩ := peeked
  obtain ⟨_, b, blocks, _, _, planned, _⟩ := tracks.coherent.front peeked
  rw [planned, jobs]
  exact ⟨_, _, rfl⟩

theorem executes (tracks : Tracks rig m s first)
    (fed : m.pipeline.segments.peek? = none → m.planner.blocks = [])
    (executes : Executes rig m m') : ∃ first', Tracks rig m' (s.execute rig) first' := by
  have planner : s.machine.planner = m.planner := by
    rw [tracks.machine]
    rfl
  rw [Unsegmented.execute, planner]
  cases executes with
  | holds hold => exact absurd hold tracks.unheld
  | orphaned peeked missing => exact absurd missing (tracks.coherent.never_orphaned peeked)
  | runsDry due _ empty =>
      rw [fed empty, jobs, tracks.machine, finishCycle_unsegmented]
      exact ⟨first, tracks.still (still_finishCycle rig m) (finishCycle_unheld rig m tracks.unheld)⟩
  | @advances ready loadsBlock loads =>
      obtain ⟨job, later, found⟩ := tracks.found_of_loads loads
      have same : (s.machine.runtime.load == .block) = loadsBlock := by
        rw [Bool.eq_iff_iff, beq_iff_eq, tracks.machine, unsegmented_due, loads.due_iff]
      have found' : jobs ready.planner.blocks = job :: later := by rwa [loads.planner]
      rw [found, same]
      exact (tracks.loads loads found).advances loads.load found' loadsBlock

theorem pulseReset (tracks : Tracks rig m s first) :
    Tracks rig (m.onPulseReset rig) (s.perform rig .pulseReset) first := by
  rw [Unsegmented.perform, tracks.machine, onPulseReset_unsegmented]
  exact tracks.still (still_onPulseReset rig m) (onPulseReset_unheld rig m tracks.unheld)

theorem fill (tracks : Tracks rig m s first) {room count : Nat} {p : Pipeline}
    (filled : m.pipeline.fill m.planner.source rig.sizing rig.settings room = .ok (p, count)) :
    Tracks rig { m with pipeline := p } s first := by
  obtain ⟨position, streams⟩ := tracks.streams
  exact
    { coherent := tracks.coherent.fill filled
      streams := streams.fill tracks.coherent.aligned filled
      machine := tracks.machine
      taken := tracks.taken
      unbegun := tracks.unbegun
      turned := tracks.turned
      unheld := tracks.unheld }

theorem tick (tracks : Tracks rig m s first)
    (fed : m.pipeline.segments.peek? = none → m.planner.blocks = []) :
    ∃ first', Tracks rig (m.tick rig) (s.tick rig) first' := by
  have runState := runState_applyStaged rig m
  have applied : applyStaged rig s.machine =
      ((applyStaged rig m).1, (applyStaged rig m).2.unsegmented) := by
    rw [tracks.machine, applyStaged_unsegmented]
  have busy : s.machine.runtime.busy = m.runtime.busy := by
    rw [tracks.machine]
    rfl
  rw [Unsegmented.tick, applied, busy]
  cases free : m.runtime.busy with
  | true =>
      rw [if_pos rfl, tick_busy free]
      exact ⟨first, tracks⟩
  | false =>
      rw [if_neg Bool.false_ne_true]
      rcases tick_acts rig free with ⟨cause, m₀, refused, same⟩ | ⟨m₀, taken, same⟩
      · rw [refused, same]
        exact ⟨first, tracks.still (still_alarmed refused) nofun⟩
      · rw [taken] at runState
        have begun := still_begun taken
        have unheld : (m₀.setBusy true).runState ≠ .hold := by
          rw [show (m₀.setBusy true).runState = m.runState from runState]
          exact tracks.unheld
        have fed' : (m₀.setBusy true).pipeline.segments.peek? = none →
            (m₀.setBusy true).planner.blocks = [] := by
          rw [begun.pipeline, begun.planner]
          exact fed
        rw [taken, same]
        exact (tracks.still begun unheld).executes fed' (Machine.executes rfl)

end Tracks

namespace Machine

def launched (rig : Rig H) (hardware : H) (q : BlockQueue capacity) : Machine H capacity :=
  ((fresh hardware q).queue.cycleStart rig).2

/-- Slicing at any time, and the calls of the timers; but no tick finds the ring empty before the
planner is. -/
def fed : Rule H capacity
  | _, .prepareSegments => True
  | _, .pulseReset => True
  | m, .tick => m.pipeline.segments.peek? = none → m.planner.blocks = []
  | _, _ => False

def timed : Recorder H capacity (List Operation) := fun _ op _ calls =>
  if op = .prepareSegments then calls else op :: calls

end Machine

def Unsegmented.after (rig : Rig H) (start : Machine H capacity) (calls : List Operation) :
    Unsegmented H capacity :=
  calls.foldr (fun op s => s.perform rig op) { machine := start.unsegmented }

namespace Tracks

variable {rig : Rig H} {m m' : Machine H capacity} {s : Unsegmented H capacity} {first : Nat}

protected theorem launched (rig : Rig H) (hardware : H) {q : BlockQueue capacity}
    (eventful : ∀ b ∈ q.blocks, b.events ≠ 0) :
    Tracks rig (launched rig hardware q) { machine := (launched rig hardware q).unsegmented } 0 := by
  let running : Machine H capacity := { Machine.fresh hardware q with runState := .cycle }
  have still : Still running (launched rig hardware q) := by
    -- The load of a block that a start asks for is due anyway.
    rcases wakeUp_still rig running with still | asked
    · exact still
    · exact asked
  have runState : (launched rig hardware q).runState = .cycle := runState_wakeUp rig running
  have before : Tracks rig running { machine := running.unsegmented } 0 :=
    { coherent := (Coherent.fresh rig.settings hardware eventful).congr rfl rfl rfl rfl rfl
      streams := ⟨0, Streams.reset rig.sizing rig.settings q {}⟩
      machine := rfl
      taken := rfl
      unbegun := fun _ => rfl
      turned := nofun
      unheld := nofun }
  apply before.still still
  rw [runState]
  exact nofun

theorem perform {op : Operation} {reply : Reply} (tracks : Tracks rig m s first) (allowed : fed m op)
    (performed : m.perform rig op = .ok (reply, m')) :
    ∃ first', Tracks rig m' (if op = .prepareSegments then s else s.perform rig op) first' := by
  cases performs performed with
  | prepareSegments filled => exact ⟨first, tracks.fill filled⟩
  | pulseReset => exact ⟨first, tracks.pulseReset⟩
  | tick => exact tracks.tick allowed
  | _ => contradiction

theorem run {hardware : H} {q : BlockQueue capacity} (eventful : ∀ b ∈ q.blocks, b.events ≠ 0)
    {calls : List Operation} (ran : Run rig fed timed (launched rig hardware q) [] m calls) :
    ∃ first, Tracks rig m (Unsegmented.after rig (launched rig hardware q) calls) first := by
  induction ran with
  | start => exact ⟨0, Tracks.launched rig hardware eventful⟩
  | @step m m' calls op reply _ allowed performed ih =>
      obtain ⟨first, tracks⟩ := ih
      obtain ⟨first', tracks'⟩ := tracks.perform allowed performed
      refine ⟨first', ?_⟩
      rw [timed]
      split at tracks'
      · next slicing =>
        rw [if_pos slicing]
        exact tracks'
      · next timer =>
        rw [if_neg timer]
        exact tracks'

end Tracks

def Rig.resized (rig : Rig H) (sizing : Sizing) (cap : UInt32) : Rig H :=
  { rig with sizing := sizing, settings := { rig.settings with segmentStepCap := cap } }

theorem Unsegmented.after_resized (rig : Rig H) (sizing : Sizing) (cap : UInt32)
    (start : Machine H capacity) (calls : List Operation) :
    after (rig.resized sizing cap) start calls = after rig start calls := by
  induction calls with
  | nil => rfl
  | cons op calls ih =>
      rw [after, after, List.foldr_cons, List.foldr_cons, ← after, ← after, ih]
      cases op <;> rfl

/-- Machines that differ only in what they know of segments. -/
structure Alike (m₁ m₂ : Machine H capacity) : Prop where
  hardware : m₁.hardware = m₂.hardware
  planner : m₁.planner = m₂.planner
  position : m₁.position = m₂.position
  runState : m₁.runState = m₂.runState
  cycleStop : m₁.cycleStop = m₂.cycleStop
  counters : m₁.runtime.counters = m₂.runtime.counters
  distance : m₁.runtime.distance = m₂.runtime.distance
  ramp : m₁.runtime.ramp = m₂.runtime.ramp
  staged : m₁.runtime.staged = m₂.runtime.staged
  busy : m₁.runtime.busy = m₂.runtime.busy
  block : m₁.runtime.block = m₂.runtime.block
  due : m₁.runtime.load = .block ↔ m₂.runtime.load = .block

theorem alike_of_unsegmented {m₁ m₂ : Machine H capacity} (same : m₁.unsegmented = m₂.unsegmented) :
    Alike m₁ m₂ := by
  constructor
  case hardware => exact congrArg (fun m => m.hardware) same
  case planner => exact congrArg (fun m => m.planner) same
  case position => exact congrArg (fun m => m.position) same
  case runState => exact congrArg (fun m => m.runState) same
  case cycleStop => exact congrArg (fun m => m.cycleStop) same
  case counters => exact congrArg (fun m => m.runtime.counters) same
  case distance => exact congrArg (fun m => m.runtime.distance) same
  case ramp => exact congrArg (fun m => m.runtime.ramp) same
  case staged => exact congrArg (fun m => m.runtime.staged) same
  case busy => exact congrArg (fun m => m.runtime.busy) same
  case block => exact congrArg (fun m => m.runtime.block) same
  case due => rw [← unsegmented_due m₁, ← unsegmented_due m₂, same]

/-- Two runs with segments of different sizes, sliced at different moments, are alike after the same
calls of the timers. On watched hardware the machines have made the same calls, since these are part
of the hardware's state. -/
theorem segments_leave_no_trace (rig : Rig H) (hardware : H) {sizing₁ sizing₂ : Sizing}
    {cap₁ cap₂ : UInt32} {q : BlockQueue capacity} (eventful : ∀ b ∈ q.blocks, b.events ≠ 0)
    {m₁ m₂ : Machine (Watched H) capacity} {calls : List Operation}
    (ran₁ : Run (rig.watched.resized sizing₁ cap₁) fed timed
      (launched rig.watched { hardware := hardware } q) [] m₁ calls)
    (ran₂ : Run (rig.watched.resized sizing₂ cap₂) fed timed
      (launched rig.watched { hardware := hardware } q) [] m₂ calls) :
    Alike m₁ m₂ := by
  obtain ⟨_, tracks₁⟩ := Tracks.run eventful ran₁
  obtain ⟨_, tracks₂⟩ := Tracks.run eventful ran₂
  have same₁ := tracks₁.machine
  have same₂ := tracks₂.machine
  rw [Unsegmented.after_resized] at same₁ same₂
  apply alike_of_unsegmented
  calc
    m₁.unsegmented
    _ = (Unsegmented.after rig.watched (launched rig.watched { hardware := hardware } q)
          calls).machine := same₁.symm
    _ = m₂.unsegmented := same₂

def coarseRun : List Operation :=
  [.prepareSegments, .tick, .tick, .tick, .tick, .pulseReset, .tick, .tick]

def fineRun : List Operation :=
  [.prepareSegments, .tick, .tick, .prepareSegments, .tick, .tick, .pulseReset, .prepareSegments,
    .tick, .prepareSegments, .tick]

def fedAllowed (m : Machine (Watched Unit) 4) : Operation → Bool
  | .prepareSegments => true
  | .pulseReset => true
  | .tick => m.pipeline.segments.peek?.isSome || m.planner.blocks.isEmpty
  | _ => false

theorem fed_of_fedAllowed (m : Machine (Watched Unit) 4) (op : Operation)
    (allowed : fedAllowed m op = true) : fed m op := by
  cases op
  case tick =>
    intro empty
    simpa [fedAllowed, empty] using allowed
  case prepareSegments => trivial
  case pulseReset => trivial
  all_goals contradiction

def sampleLaunch : Machine (Watched Unit) 4 :=
  launched sampleRig.watched { hardware := () } { blocks := [.sample, .sample] }

def sampleCalls : List Operation :=
  [.tick, .tick, .pulseReset, .tick, .tick, .tick, .tick]

theorem exists_fed_run (cap : UInt32) (ops : List Operation) (segments : Nat)
    (followed : (follow (sampleRig.watched.resized Sizing.fixed cap) fedAllowed timed sampleLaunch []
      ops).any (fun r => r.2 == sampleCalls && r.1.pipeline.segments.length == segments &&
        r.1.position == ⟨4, -1, 0⟩) = true) :
    ∃ m, Run (sampleRig.watched.resized Sizing.fixed cap) fed timed sampleLaunch [] m sampleCalls ∧
      m.pipeline.segments.length = segments ∧ m.position = ⟨4, -1, 0⟩ := by
  obtain ⟨m, calls, ran, shown⟩ := exists_run fed_of_fedAllowed followed
  simp only [Bool.and_eq_true, beq_iff_eq] at shown
  obtain ⟨⟨rfl, segments⟩, position⟩ := shown
  exact ⟨m, ran, segments, position⟩

theorem coarse_and_fine_alike :
    ∃ m₁ m₂ : Machine (Watched Unit) 4,
      Run (sampleRig.watched.resized Sizing.fixed 2) fed timed sampleLaunch [] m₁ sampleCalls ∧
      Run (sampleRig.watched.resized Sizing.fixed 1) fed timed sampleLaunch [] m₂ sampleCalls ∧
      m₁.pipeline.segments.length = 1 ∧ m₂.pipeline.segments.length = 2 ∧
      m₁.position = ⟨4, -1, 0⟩ ∧ Alike m₁ m₂ := by
  obtain ⟨m₁, ran₁, coarse, position⟩ := exists_fed_run 2 coarseRun 1 (by decide +kernel)
  obtain ⟨m₂, ran₂, fine, _⟩ := exists_fed_run 1 fineRun 2 (by decide +kernel)
  exact ⟨m₁, m₂, ran₁, ran₂, coarse, fine, position,
    segments_leave_no_trace sampleRig () (by decide) ran₁ ran₂⟩

end StepPulse
