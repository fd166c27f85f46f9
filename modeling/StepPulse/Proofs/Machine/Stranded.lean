import StepPulse.Proofs.Machine.Hold
import StepPulse.Proofs.Machine.Supply

/-! A refused cycle start leaves a cycle behind in which no ticks arrive. -/

namespace StepPulse

open Machine

variable {H : Type} {capacity : Nat} {rig : Rig H}

section Calls

variable {m m' : Machine (Watched H) capacity} {cause : LineError}

theorem cycleStart_refused (refused : m.cycleStart rig.watched = (.error cause, m')) :
    m.runState = .queued ∧ m' = m.onto m'.hardware .cycle m.cycleStop ∧
      m'.journal = ⟨.disable rig.settings.enableLevel, some cause⟩ :: m.journal := by
  have starts := starts rig m
  rw [refused] at starts
  cases starts with
  | woken queued wakes =>
      cases wakes
      exact ⟨queued, rfl, rfl⟩

end Calls

def Rig.Energizes (rig : Rig H) : Prop :=
  ∀ h, (rig.port.writeDisable rig.settings.enableLevel h).1 = .ok ()

/-- Ticks arrive with a block load due, after two calls that were taken. -/
structure Begun (rig : Rig H) (m m' : Machine (Watched H) capacity) : Prop where
  motion : m' = m.unstaged.requestBlock.onto m'.hardware .cycle m.cycleStop
  journal : m'.journal = ⟨.startTicks, none⟩ :: ⟨.disable rig.settings.enableLevel, none⟩ ::
    m.journal

theorem begun_wakeUp (energizes : rig.Energizes) {m : Machine (Watched H) capacity}
    (cycle : m.runState = .cycle) :
    ∃ m', m.wakeUp rig.watched = (.ok (), m') ∧ Begun rig m m' := by
  have wakes := wakes rig m
  generalize m.wakeUp rig.watched = r at wakes
  cases wakes with
  | refused refused =>
      rw [energizes] at refused
      contradiction
  | started =>
      refine ⟨_, rfl, ?_, rfl⟩
      rw [← cycle]
      rfl
  | energized rest => exact absurd cycle rest

theorem begun_cycleStart (energizes : rig.Energizes) {m : Machine (Watched H) capacity}
    (queued : m.runState = .queued) :
    ∃ m', m.cycleStart rig.watched = (.ok (), m') ∧ Begun rig m m' := by
  obtain ⟨m', woken, begun⟩ :=
    begun_wakeUp energizes (m := { m with runState := .cycle }) rfl
  refine ⟨m', ?_, begun.motion, begun.journal⟩
  rw [cycleStart, queued]
  exact woken

theorem cycleStart_neither (rig : Rig H) {m : Machine H capacity} (unqueued : m.runState ≠ .queued)
    (unheld : m.runState ≠ .hold) : m.cycleStart rig = (.ok (), m) := by
  rw [cycleStart]
  split
  · contradiction
  · contradiction
  · rfl

def Operation.getsGoing : Operation → Bool
  | .wakeUp => true
  | .queue => true
  | .feedHold => true
  | _ => false

structure Stuck (m : Machine (Watched H) capacity) : Prop where
  silent : m.ticking = false
  unqueued : m.runState ≠ .queued
  unheld : m.runState ≠ .hold

namespace Stuck

variable {m m' : Machine (Watched H) capacity}

theorem perform {op : Operation} {reply : Reply} (stuck : Stuck m) (idle : op.getsGoing = false)
    (performed : m.perform rig.watched op = .ok (reply, m')) : Stuck m' := by
  by_cases only : op.onlyStops = true
  · rcases stops_or_rests only performed with same | stopped
    · refine ⟨same.ticking.trans stuck.silent, ?_, ?_⟩
      · rw [same.runState]
        exact stuck.unqueued
      · rw [same.runState]
        exact stuck.unheld
    · rcases stopped.runState with same | alarmed | ⟨_, ended⟩
      · refine ⟨stopped.silent, ?_, ?_⟩
        · rw [same]
          exact stuck.unqueued
        · rw [same]
          exact stuck.unheld
      · exact ⟨stopped.silent, by rw [alarmed]; decide, by rw [alarmed]; decide⟩
      · exact ⟨stopped.silent, by rw [ended]; decide, by rw [ended]; decide⟩
  · cases performs performed with
    | cycleStart =>
        rw [cycleStart_neither rig.watched stuck.unqueued stuck.unheld]
        exact stuck
    | acknowledge => exact ⟨stuck.silent, RunState.noConfusion, RunState.noConfusion⟩
    | wakeUp => cases idle
    | queue => cases idle
    | queueUnheeded => cases idle
    | feedHold => cases idle
    | feedHoldUnheeded => cases idle
    | _ => exact absurd rfl only

theorem run {ops : List Operation} {replies : List Reply} (stuck : Stuck m)
    (idle : ∀ op ∈ ops, op.getsGoing = false)
    (ran : m.run rig.watched ops = .ok (replies, m')) : Stuck m' := by
  refine run_preserves Stuck ?_ stuck ran
  intro op member now next reply kept performed
  exact kept.perform (idle op member) performed

end Stuck

/-- What a refused start leaves behind: the machine it found, but in a cycle. -/
structure Stranded (rig : Rig H) (cause : LineError) (m m' : Machine (Watched H) capacity) :
    Prop where
  queued : m.runState = .queued
  motion : m' = m.onto m'.hardware .cycle m.cycleStop
  journal : m'.journal = ⟨.disable rig.settings.enableLevel, some cause⟩ :: m.journal
  ticking : m'.ticking = m.ticking
  deaf : ∀ other : Rig H, m'.cycleStart other.watched = (.ok (), m')
  resumes : ∀ mended : Rig H, mended.settings = rig.settings → mended.Energizes →
    ∃ started woken, m.cycleStart mended.watched = (.ok (), started) ∧ Begun mended m started ∧
      m'.wakeUp mended.watched = (.ok (), woken) ∧ Begun mended m' woken ∧
      woken = { started with hardware := woken.hardware }
  silent : m.ticking = false → ∀ {other : Rig H} {ops : List Operation} {replies : List Reply}
    {later : Machine (Watched H) capacity}, (∀ op ∈ ops, op.getsGoing = false) →
    m'.run other.watched ops = .ok (replies, later) → later.ticking = false

theorem refused_start_strands {m m' : Machine (Watched H) capacity} {cause : LineError}
    (refused : m.cycleStart rig.watched = (.error cause, m')) : Stranded rig cause m m' := by
  obtain ⟨queued, motion, journal⟩ := cycleStart_refused refused
  have cycle : m'.runState = .cycle := congrArg Machine.runState motion
  have unqueued : m'.runState ≠ .queued := by rw [cycle]; decide
  have unheld : m'.runState ≠ .hold := by rw [cycle]; decide
  have ticking : m'.ticking = m.ticking := by
    rw [ticking, journal]
    rfl
  -- The start has touched the run state only, so that a wake-up comes to the same machine.
  have alike : ∀ hardware, m'.unstaged.requestBlock.onto hardware .cycle m'.cycleStop =
      m.unstaged.requestBlock.onto hardware .cycle m.cycleStop := by
    intro hardware
    rw [motion]
    rfl
  constructor
  case queued => exact queued
  case motion => exact motion
  case journal => exact journal
  case ticking => exact ticking
  case deaf => exact fun other => cycleStart_neither other.watched unqueued unheld
  case resumes =>
    intro mended settings energizes
    obtain ⟨started, first, begun⟩ := begun_cycleStart energizes queued
    obtain ⟨woken, second, begun'⟩ := begun_wakeUp energizes cycle
    refine ⟨started, woken, first, begun, second, begun', ?_⟩
    calc
      woken = m'.unstaged.requestBlock.onto woken.hardware .cycle m'.cycleStop := begun'.motion
      _ = m.unstaged.requestBlock.onto woken.hardware .cycle m.cycleStop := alike woken.hardware
      _ = { started with hardware := woken.hardware } := by
        rw [begun.motion]
        rfl
  case silent =>
    intro silent other ops replies later idle ran
    have stuck : Stuck m' := ⟨ticking.trans silent, unqueued, unheld⟩
    exact (stuck.run idle ran).silent

def unpoweredRig : Rig Unit :=
  { sampleRig with
    port := { sampleRig.port with writeDisable := fun _ h => (.error .disable, h) } }

def waitingRun : List Operation := [.pushBlock .sample, .prepareSegments, .queue]

theorem exists_waiting :
    ∃ m : Machine (Watched Unit) 4, Reaches unpoweredRig.watched sampleStart m ∧
      m.runState = .queued ∧ m.ticking = false := by
  obtain ⟨m, _, ran, shown⟩ := exists_unrestricted unpoweredRig.watched unrecorded sampleStart ()
    waitingRun (fun r => r.1.runState == .queued && !r.1.ticking) (by decide +kernel)
  obtain ⟨queued, silent⟩ := Bool.and_eq_true_iff.mp shown
  exact ⟨m, ran, eq_of_beq queued, Bool.not_eq_true' _ ▸ silent⟩

theorem exists_unpowered {m : Machine (Watched Unit) 4} (queued : m.runState = .queued) :
    ∃ m', m.cycleStart unpoweredRig.watched = (.error .disable, m') := by
  rw [cycleStart, queued]
  exact ⟨_, rfl⟩

theorem stranded_at_first_start :
    ∃ m m' : Machine (Watched Unit) 4, Reaches unpoweredRig.watched sampleStart m ∧
      m.cycleStart unpoweredRig.watched = (.error .disable, m') ∧ m.ticking = false ∧
      Stranded unpoweredRig .disable m m' := by
  obtain ⟨m, ran, queued, silent⟩ := exists_waiting
  obtain ⟨m', refused⟩ := exists_unpowered queued
  exact ⟨m, m', ran, refused, silent, refused_start_strands refused⟩

/-- The first start is refused, and the machine is left in a cycle. When the drivers can be switched
again, a second start is taken and does nothing; the first would have started the ticks. -/
theorem second_start_in_vain :
    ∃ m m' : Machine (Watched Unit) 4, Reaches unpoweredRig.watched sampleStart m ∧
      m.cycleStart unpoweredRig.watched = (.error .disable, m') ∧ m.runState = .queued ∧
      m'.runState = .cycle ∧ m'.cycleStart sampleRig.watched = (.ok (), m') ∧
      m'.ticking = false ∧ (m.cycleStart sampleRig.watched).2.ticking = true := by
  obtain ⟨m, ran, queued, silent⟩ := exists_waiting
  obtain ⟨m', refused⟩ := exists_unpowered queued
  obtain ⟨_, motion, journal⟩ := cycleStart_refused refused
  have cycle : m'.runState = .cycle := congrArg Machine.runState motion
  have again : m'.cycleStart sampleRig.watched = (.ok (), m') := by rw [cycleStart, cycle]
  have ticking : m'.ticking = false := by
    rw [ticking, journal]
    exact silent
  have powered : (m.cycleStart sampleRig.watched).2.ticking = true := by
    rw [cycleStart, queued]
    rfl
  exact ⟨m, m', ran, refused, queued, cycle, again, ticking, powered⟩

end StepPulse
