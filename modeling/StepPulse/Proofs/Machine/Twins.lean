import StepPulse.Proofs.Lines
import StepPulse.Proofs.Machine.Effect
import StepPulse.Proofs.Segment.Agreement

/-! Machines that differ in inverted lines and in what goes unseen of their pipelines. -/

namespace StepPulse

variable {H H' : Type} {capacity : Nat}

/-- How twins are alike: what is inverted between them, when hardware is to be called alike, and
which difference of their pipelines is allowed. -/
structure Likeness (H H' : Type) where
  mask : Lines
  hardware : H → H' → Prop
  pipelines : Pipeline → Pipeline → Prop

def Echoes (alike : H → H' → Prop) (w : Write H) (w' : Write H') : Prop :=
  ∀ h h', alike h h' → (w' h').1 = (w h).1 ∧ alike (w h).2 (w' h').2

structure Rig.Twins (l : Likeness H H') (rig : Rig H) (rig' : Rig H') : Prop where
  settings : rig'.settings =
    { rig.settings with invertMask := rig.settings.invertMask ^^^ l.mask }
  sizes : ∀ b, rig'.sizing b rig'.settings = rig.sizing b rig.settings
  unseen : Pipeline.Unseen rig.sizing rig.settings l.pipelines
  output : ∀ image, Echoes l.hardware (rig.port.writeOutput image)
    (rig'.port.writeOutput (image ^^^ l.mask))
  stepLines : ∀ image, Echoes l.hardware (rig.port.writeStepLines image)
    (rig'.port.writeStepLines (image ^^^ l.mask.stepLines))
  disable : ∀ level, Echoes l.hardware (rig.port.writeDisable level)
    (rig'.port.writeDisable level)
  start : ∀ {h : H} {h' : H'}, l.hardware h h' →
    l.hardware (rig.port.timer.start h) (rig'.port.timer.start h')
  stop : ∀ {h : H} {h' : H'}, l.hardware h h' →
    l.hardware (rig.port.timer.stop h) (rig'.port.timer.stop h')
  armPulseReset : ∀ (width : Microseconds) {h : H} {h' : H'}, l.hardware h h' →
    l.hardware (rig.port.timer.armPulseReset width h) (rig'.port.timer.armPulseReset width h')
  wait : ∀ (time : Milliseconds) {h : H} {h' : H'}, l.hardware h h' →
    l.hardware (rig.delay.wait time h) (rig'.delay.wait time h')

theorem Rig.Twins.setting {A : Type} {l : Likeness H H'} {rig : Rig H} {rig' : Rig H'}
    (rigs : Rig.Twins l rig rig') (read : Settings → A)
    (blind : ∀ s mask, read { s with invertMask := mask } = read s) :
    read rig'.settings = read rig.settings := by
  rw [rigs.settings]
  exact blind _ _

theorem Rig.Twins.invertMask {l : Likeness H H'} {rig : Rig H} {rig' : Rig H'}
    (rigs : Rig.Twins l rig rig') :
    rig'.settings.invertMask = rig.settings.invertMask ^^^ l.mask :=
  congrArg Settings.invertMask rigs.settings

def Runtime.inverted (mask : Lines) (r : Runtime) : Runtime :=
  { r with staged := r.staged.map (· ^^^ mask) }

namespace Machine

/-- Twins differ in the inversion of what is staged, in their hardware, and in what goes unseen of
their pipelines. A segment in execution is still at the front of its ring. -/
structure Twins (l : Likeness H H') (m : Machine H capacity) (m' : Machine H' capacity) : Prop where
  hardware : l.hardware m.hardware m'.hardware
  pipeline : l.pipelines m.pipeline m'.pipeline
  loaded : m.runtime.load = .nothing → m.pipeline.segments.peek? = some m.runtime.segment
  planner : m'.planner = m.planner
  runtime : m'.runtime = m.runtime.inverted l.mask
  position : m'.position = m.position
  runState : m'.runState = m.runState
  cycleStop : m'.cycleStop = m.cycleStop

inductive Answered (l : Likeness H H') :
    Except LineError Unit × Machine H capacity → Except LineError Unit × Machine H' capacity → Prop
  | both {m : Machine H capacity} {m' : Machine H' capacity} (answer : Except LineError Unit) :
      Twins l m m' → Answered l (answer, m) (answer, m')

def Replied {A : Type} (l : Likeness H H') (a : A × Machine H capacity)
    (b : A × Machine H' capacity) : Prop :=
  b.1 = a.1 ∧ Twins l a.2 b.2

theorem Answered.replied {l : Likeness H H'} {r : Except LineError Unit × Machine H capacity}
    {r' : Except LineError Unit × Machine H' capacity} (answered : Answered l r r') :
    Concur (Replied l) (.ok (perform.answered r) : Except ClampFault _)
      (.ok (perform.answered r')) := by
  cases answered with
  | both answer twins => exact .ok ⟨rfl, twins⟩

namespace Twins

variable {l : Likeness H H'} {rig : Rig H} {rig' : Rig H'} {m : Machine H capacity}
  {m' : Machine H' capacity}

section Runtime

variable (twins : Twins l m m')
include twins

theorem load : m'.runtime.load = m.runtime.load := by
  rw [twins.runtime]
  rfl

theorem busy : m'.runtime.busy = m.runtime.busy := by
  rw [twins.runtime]
  rfl

theorem segment : m'.runtime.segment = m.runtime.segment := by
  rw [twins.runtime]
  rfl

theorem staged : m'.runtime.staged = m.runtime.staged.map (· ^^^ l.mask) := by
  rw [twins.runtime]
  rfl

end Runtime

theorem write {w : Write H} {w' : Write H'} (twins : Twins l m m')
    (echoes : Echoes l.hardware w w') : Answered l (m.write w) (m'.write w') := by
  obtain ⟨answer, alike⟩ := echoes _ _ twins.hardware
  have after : Twins l (m.write w).2 (m'.write w').2 := { twins with hardware := alike }
  show Answered l ((w m.hardware).1, (m.write w).2) ((w' m'.hardware).1, (m'.write w').2)
  rw [answer]
  exact .both _ after

theorem setBusy (twins : Twins l m m') (busy : Bool) : Twins l (m.setBusy busy) (m'.setBusy busy) :=
  { twins with
    runtime := by
      simp only [Machine.setBusy, twins.runtime]
      rfl }

theorem unstaged (twins : Twins l m m') : Twins l m.unstaged m'.unstaged :=
  { twins with
    runtime := by
      simp only [Machine.unstaged, twins.runtime]
      rfl }

theorem loadSegment (twins : Twins l m m') (s : Segment) (due : m.runtime.load ≠ .nothing) :
    Twins l (m.loadSegment s) (m'.loadSegment s) :=
  { twins with
    loaded := fun nothing => absurd nothing due
    runtime := by
      simp only [Machine.loadSegment, twins.runtime]
      rfl }

theorem pushBlock (b : Block) (twins : Twins l m m') :
    Replied l (m.pushBlock b) (m'.pushBlock b) := by
  rw [Machine.pushBlock, Machine.pushBlock, twins.planner]
  split
  · exact ⟨rfl, { twins with planner := rfl }⟩
  · exact ⟨rfl, twins⟩

theorem queue (twins : Twins l m m') : Twins l m.queue m'.queue := by
  rw [Machine.queue, Machine.queue, twins.runState]
  split
  · exact { twins with runState := rfl }
  · exact twins

theorem feedHold (twins : Twins l m m') : Twins l m.feedHold m'.feedHold := by
  rw [Machine.feedHold, Machine.feedHold, twins.runState]
  split
  · exact { twins with runState := rfl }
  · exact twins

section Rigs

variable (rigs : Rig.Twins l rig rig') (twins : Twins l m m')
include rigs twins

theorem startTicks : Twins l (m.startTicks rig) (m'.startTicks rig') :=
  { twins with hardware := rigs.start twins.hardware }

theorem stopTicks : Twins l (m.stopTicks rig) (m'.stopTicks rig') :=
  { twins with hardware := rigs.stop twins.hardware }

theorem reset : Twins l m.reset m'.reset := by
  constructor
  case hardware => exact twins.hardware
  case pipeline =>
    rw [Machine.reset, Machine.reset, twins.planner]
    exact rigs.unseen.reset m.planner.tail twins.pipeline
  case loaded => exact fun nothing => Load.noConfusion nothing
  case planner => exact twins.planner
  case runtime => rfl
  case position => exact twins.position
  case runState => exact twins.runState
  case cycleStop => exact twins.cycleStop

theorem wakeUp : Answered l (m.wakeUp rig) (m'.wakeUp rig') := by
  have written := twins.write (rigs.disable rig.settings.enableLevel)
  rw [Machine.wakeUp, Machine.wakeUp, rigs.setting Settings.enableLevel fun _ _ => rfl]
  generalize m.write (rig.port.writeDisable rig.settings.enableLevel) = r at written
  generalize m'.write (rig'.port.writeDisable rig.settings.enableLevel) = r' at written
  cases written with
  | @both n n' answer after =>
      cases answer with
      | error cause => exact .both _ after
      | ok =>
          by_cases cycle : n.runState = .cycle
          · simp only [if_pos cycle, if_pos (after.runState.trans cycle)]
            refine .both _ (startTicks rigs ?_)
            exact { after with
              loaded := fun nothing => Load.noConfusion nothing
              runtime := by
                rw [after.runtime]
                rfl }
          · simp only [if_neg cycle, if_neg (after.runState ▸ cycle)]
            exact .both _ after

theorem goIdle : Answered l (m.goIdle rig) (m'.goIdle rig') := by
  have stopped := (stopTicks rigs twins).setBusy false
  have keep := rigs.setting Settings.keepEnabledWhenIdle fun _ _ => rfl
  by_cases kept : rig.settings.keepEnabledWhenIdle = true ∧ m.runState ≠ .alarm
  · rw [goIdle_kept rig m kept, goIdle_kept rig' m' ⟨keep.trans kept.1, twins.runState ▸ kept.2⟩]
    exact .both _ stopped
  · rw [goIdle_released rig m kept,
      goIdle_released rig' m' (by rwa [keep, twins.runState]),
      rigs.setting Settings.idleLockTime fun _ _ => rfl,
      rigs.setting Settings.disableLevel fun _ _ => rfl]
    apply write _ (rigs.disable rig.settings.disableLevel)
    exact { stopped with hardware := rigs.wait rig.settings.idleLockTime stopped.hardware }

theorem init : Answered l (m.init rig) (m'.init rig') := by
  have written := (reset rigs twins).write (rigs.output rig.settings.invertMask)
  rw [Machine.init, Machine.init, rigs.invertMask]
  generalize m.reset.write (rig.port.writeOutput rig.settings.invertMask) = r at written
  generalize m'.reset.write _ = r' at written
  cases written with
  | @both n n' answer after =>
      cases answer with
      | error cause => exact .both _ after
      | ok =>
          have woken := wakeUp rigs after
          dsimp only
          generalize n.wakeUp rig = r at woken
          generalize n'.wakeUp rig' = r' at woken
          cases woken with
          | @both k k' answer after =>
              cases answer with
              | error cause => exact .both _ after
              | ok => exact goIdle rigs after

theorem cycleStart : Answered l (m.cycleStart rig) (m'.cycleStart rig') := by
  have begun : Twins l { m with runState := .cycle } { m' with runState := .cycle } :=
    { twins with runState := rfl }
  rw [Machine.cycleStart, Machine.cycleStart, twins.runState]
  split
  · exact wakeUp rigs begun
  · exact .both _ (startTicks rigs begun)
  · exact .both _ twins

theorem alarm : Answered l (m.alarm rig) (m'.alarm rig') :=
  goIdle rigs { twins with runState := rfl }

theorem enterAlarm : Twins l (m.enterAlarm rig) (m'.enterAlarm rig') := by
  have alarmed : Twins l { m with runState := .alarm } { m' with runState := .alarm } :=
    { twins with runState := rfl }
  have released := (stopTicks rigs alarmed).write (rigs.disable rig.settings.disableLevel)
  rw [Machine.enterAlarm, Machine.enterAlarm, rigs.setting Settings.disableLevel fun _ _ => rfl]
  generalize Machine.write _ (Machine.stopTicks rig _) = r at released
  generalize Machine.write _ (Machine.stopTicks rig' _) = r' at released
  cases released with
  | both _ after => exact { after.setBusy false with cycleStop := rfl }

theorem onPulseReset : Twins l (m.onPulseReset rig) (m'.onPulseReset rig') := by
  have written := twins.write (rigs.stepLines rig.settings.invertMask.stepLines)
  rw [Machine.onPulseReset, Machine.onPulseReset, rigs.invertMask, Lines.stepLines_xor]
  generalize m.write (rig.port.writeStepLines _) = r at written
  generalize m'.write (rig'.port.writeStepLines _) = r' at written
  cases written with
  | both answer after =>
      cases answer with
      | error cause => exact enterAlarm rigs after
      | ok => exact after

theorem finishCycle : Twins l (m.finishCycle rig) (m'.finishCycle rig') := by
  have idle := goIdle rigs twins
  rw [Machine.finishCycle, Machine.finishCycle]
  generalize m.goIdle rig = r at idle
  generalize m'.goIdle rig' = r' at idle
  cases idle with
  | both answer after =>
      cases answer with
      | error cause => exact enterAlarm rigs after
      | ok =>
          exact { after with
            runState := by
              dsimp only
              rw [after.runState]
            cycleStop := rfl }

theorem finishHold : Twins l (m.finishHold rig) (m'.finishHold rig') :=
  { (stopTicks rigs twins).setBusy false with cycleStop := rfl }

theorem applyStaged : Answered l (m.applyStaged rig) (m'.applyStaged rig') := by
  cases staged : m.runtime.staged with
  | none =>
      have staged' : m'.runtime.staged = none := by rw [twins.staged, staged, Option.map_none]
      rw [applyStaged_none staged, applyStaged_none staged']
      exact .both _ twins
  | some image =>
      have staged' : m'.runtime.staged = some (image ^^^ l.mask) := by
        rw [twins.staged, staged, Option.map_some]
      have written := twins.unstaged.write (rigs.output image)
      generalize wrote : m.unstaged.write (rig.port.writeOutput image) = r at written
      generalize wrote' : m'.unstaged.write (rig'.port.writeOutput (image ^^^ l.mask)) = r'
        at written
      cases written with
      | both answer after =>
          cases answer with
          | error cause =>
              rw [applyStaged_refused staged wrote, applyStaged_refused staged' wrote']
              exact .both _ after
          | ok =>
              rw [applyStaged_taken staged wrote, applyStaged_taken staged' wrote',
                rigs.setting Settings.pulseWidth fun _ _ => rfl]
              exact .both _
                { after with hardware := rigs.armPulseReset rig.settings.pulseWidth after.hardware }

theorem rates (peeked : m.pipeline.segments.peek? = some m.runtime.segment) :
    (m'.pipeline.blocks.get m'.runtime.segment.slot).rates =
      (m.pipeline.blocks.get m.runtime.segment.slot).rates := by
  rw [twins.segment]
  exact rigs.unseen.rates twins.pipeline peeked

theorem loadBlock (b : ActiveBlock) (due : m.runtime.load ≠ .nothing)
    (peeked : m.pipeline.segments.peek? = some m.runtime.segment) :
    Twins l (m.loadBlock rig b) (m'.loadBlock rig' b) :=
  { twins with
    loaded := fun nothing => absurd nothing due
    runtime := by
      simp only [Machine.loadBlock, rates rigs twins peeked, rigs.invertMask,
        rigs.setting Settings.rampPeriod fun _ _ => rfl, ← Lines.xor_assoc]
      rw [twins.runtime]
      rfl }

theorem finishLoad (peeked : m.pipeline.segments.peek? = some m.runtime.segment) :
    Twins l (m.finishLoad rig) (m'.finishLoad rig') :=
  { twins with
    loaded := fun _ => peeked
    runtime := by
      simp only [Machine.finishLoad, twins.runtime, rigs.setting Settings.rampPeriod fun _ _ => rfl]
      rfl }

theorem paced (peeked : m.pipeline.segments.peek? = some m.runtime.segment) (distance : Int) :
    Twins l (m.paced rig distance) (m'.paced rig' distance) :=
  { twins with
    runtime := by
      simp only [Machine.paced, nextRamp, rates rigs twins peeked,
        rigs.setting Settings.rampPeriod fun _ _ => rfl]
      rw [twins.runtime]
      rfl }

theorem nextDistance (peeked : m.pipeline.segments.peek? = some m.runtime.segment) :
    m'.nextDistance rig' = m.nextDistance rig := by
  simp only [Machine.nextDistance, nextRamp, rates rigs twins peeked,
    rigs.setting Settings.rampPeriod fun _ _ => rfl,
    rigs.setting Settings.minimumStepRate fun _ _ => rfl]
  rw [twins.runtime]
  rfl

theorem stepEvent : Twins l (m.stepEvent rig) (m'.stepEvent rig') := by
  have left : m'.runtime.stepsRemaining = m.runtime.stepsRemaining := by
    rw [twins.runtime]
    rfl
  constructor
  case hardware => exact twins.hardware
  case pipeline =>
    simp only [Machine.stepEvent, left]
    split
    · exact rigs.unseen.advance twins.pipeline
    · exact twins.pipeline
  case loaded =>
    simp only [Machine.stepEvent]
    by_cases done : (Saturating.sub m.runtime.stepsRemaining 1 == 0) = true
    · -- The segment is released, and then another load is due.
      simp only [done, Bool.true_and, if_pos]
      split <;> exact fun nothing => Load.noConfusion nothing
    · simp only [done, Bool.false_and]
      exact twins.loaded
  case planner => simp only [Machine.stepEvent, left, twins.segment, twins.planner]
  case runtime =>
    simp only [Machine.stepEvent, twins.runtime, rigs.invertMask, ← Lines.xor_assoc]
    rfl
  case position =>
    simp only [Machine.stepEvent, twins.position, twins.runtime]
    rfl
  case runState => exact twins.runState
  case cycleStop => exact twins.cycleStop

theorem advance (peeked : m.pipeline.segments.peek? = some m.runtime.segment) (loadsBlock : Bool) :
    Twins l (m.advance rig loadsBlock) (m'.advance rig' loadsBlock) := by
  have distance := nextDistance rigs twins peeked
  by_cases due : m.nextDistance rig < 0 ∧ ¬ loadsBlock = true
  · have due' : m'.nextDistance rig' < 0 ∧ ¬ loadsBlock = true := by rwa [distance]
    have length : m'.stepDistance = m.stepDistance := by
      rw [Machine.stepDistance, rates rigs twins peeked]
      rfl
    rw [advance_of_due due, advance_of_due due', distance, length]
    exact (stepEvent rigs (paced rigs twins peeked _)).setBusy false
  · have rest : ¬ (m'.nextDistance rig' < 0 ∧ ¬ loadsBlock = true) := by rwa [distance]
    rw [advance_of_not_due due, advance_of_not_due rest, distance]
    exact (paced rigs twins peeked _).setBusy false

theorem execute : Twins l (m.execute rig) (m'.execute rig') := by
  by_cases loaded : m.runtime.load = .nothing
  · rw [execute_loaded loaded, execute_loaded (twins.load.trans loaded)]
    exact advance rigs twins (twins.loaded loaded) false
  by_cases hold : m.runState = .hold
  · rw [execute_held loaded hold, execute_held (twins.load ▸ loaded) (twins.runState.trans hold)]
    exact finishHold rigs twins
  have unheld : m'.runState ≠ .hold := twins.runState ▸ hold
  have peek := rigs.unseen.peek twins.pipeline
  cases peeked : m.pipeline.segments.peek? with
  | none =>
      rw [execute_dry loaded hold peeked,
        execute_dry (twins.load ▸ loaded) unheld (peek.trans peeked)]
      exact finishCycle rigs twins
  | some s =>
      have front := twins.loadSegment s loaded
      cases load : m.runtime.load with
      | nothing => exact absurd load loaded
      | segment =>
          rw [execute_segment load hold peeked,
            execute_segment (twins.load.trans load) unheld (peek.trans peeked)]
          exact advance rigs (finishLoad rigs front peeked) peeked false
      | block =>
          cases current : m.planner.current? with
          | none =>
              rw [execute_orphaned load hold peeked current,
                execute_orphaned (twins.load.trans load) unheld (peek.trans peeked)
                  (twins.planner ▸ current)]
              exact enterAlarm rigs front
          | some b =>
              rw [execute_block load hold peeked current,
                execute_block (twins.load.trans load) unheld (peek.trans peeked)
                  (twins.planner ▸ current)]
              have begun := loadBlock rigs front b.active loaded peeked
              exact advance rigs (finishLoad rigs begun peeked) peeked true

theorem tick : Twins l (m.tick rig) (m'.tick rig') := by
  have applied := applyStaged rigs twins
  rw [Machine.tick, Machine.tick, twins.busy]
  split
  · exact twins
  · generalize m.applyStaged rig = r at applied
    generalize m'.applyStaged rig' = r' at applied
    cases applied with
    | both answer after =>
        cases answer with
        | error cause => exact enterAlarm rigs after
        | ok => exact execute rigs (after.setBusy true)

theorem prepareSegments :
    Concur (Replied l) (m.prepareSegments rig) (m'.prepareSegments rig') := by
  have same := Pipeline.prepare_congr rigs.sizes
    (fun b => rigs.setting (Rates.ofBlock b) fun _ _ => rfl) m.planner.source m'.pipeline
  have prepared := rigs.unseen.prepare m.planner.source twins.pipeline
  rw [Machine.prepareSegments, Machine.prepareSegments, twins.planner, same]
  generalize filled : m.pipeline.prepare m.planner.source rig.sizing rig.settings = r at prepared
  generalize m'.pipeline.prepare m.planner.source rig.sizing rig.settings = r' at prepared
  cases prepared with
  | error fault => exact .error fault
  | ok counted =>
      refine .ok ⟨counted.2, ?_⟩
      exact { twins with
        planner := rfl
        pipeline := counted.1
        loaded := fun nothing =>
          Pipeline.peek?_fill (rigs.unseen.ordered twins.pipeline) (twins.loaded nothing)
            filled }

theorem perform (op : Operation) :
    Concur (Replied l) (m.perform rig op) (m'.perform rig' op) := by
  cases op with
  | init => exact (init rigs twins).replied
  | reset => exact .ok ⟨rfl, reset rigs twins⟩
  | wakeUp => exact (wakeUp rigs twins).replied
  | goIdle => exact (goIdle rigs twins).replied
  | queue => exact .ok ⟨rfl, twins.queue⟩
  | cycleStart => exact (cycleStart rigs twins).replied
  | feedHold => exact .ok ⟨rfl, twins.feedHold⟩
  | acknowledge => exact .ok ⟨rfl, { twins with runState := rfl }⟩
  | alarm => exact (alarm rigs twins).replied
  | prepareSegments =>
      have prepared := prepareSegments rigs twins
      rw [Machine.perform, Machine.perform]
      generalize m.prepareSegments rig = r at prepared
      generalize m'.prepareSegments rig' = r' at prepared
      cases prepared with
      | error fault => exact .error fault
      | ok replied => exact .ok ⟨congrArg Reply.emitted replied.1, replied.2⟩
  | tick => exact .ok ⟨rfl, tick rigs twins⟩
  | pulseReset => exact .ok ⟨rfl, onPulseReset rigs twins⟩
  | takeCycleStop =>
      exact .ok ⟨congrArg Reply.stopped twins.cycleStop, { twins with cycleStop := rfl }⟩
  | setPosition axis steps =>
      refine .ok ⟨rfl, { twins with position := ?_ }⟩
      exact congrArg (PerAxis.set · axis steps) twins.position
  | pushBlock b => exact .ok (twins.pushBlock b)
  | discardBlock =>
      exact .ok ⟨rfl, { twins with planner := congrArg BlockQueue.discard twins.planner }⟩
  | clearBlocks =>
      exact .ok ⟨rfl, { twins with planner := congrArg BlockQueue.clear twins.planner }⟩

/-- Twins stay twins whatever is asked of them, and one cannot be told from the other by what they
return. -/
theorem run (ops : List Operation) : Concur (Replied l) (m.run rig ops) (m'.run rig' ops) := by
  induction ops generalizing m m' with
  | nil => exact .ok ⟨rfl, twins⟩
  | cons op ops ih =>
      have performed := perform rigs twins op
      rw [Machine.run, Machine.run]
      generalize m.perform rig op = r at performed
      generalize m'.perform rig' op = r' at performed
      cases performed with
      | error fault => exact .error fault
      | @ok a b replied =>
          have rest := ih replied.2
          dsimp only
          generalize a.2.run rig ops = r at rest
          generalize b.2.run rig' ops = r' at rest
          cases rest with
          | error fault => exact .error fault
          | ok later =>
              rw [replied.1]
              exact .ok ⟨congrArg _ later.1, later.2⟩

end Rigs

end Twins

end Machine

end StepPulse
