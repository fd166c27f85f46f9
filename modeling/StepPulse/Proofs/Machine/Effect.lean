import StepPulse.Machine.Operation

/-! What an operation can do to a machine, said once. -/

namespace StepPulse

open Machine

variable {H : Type} {capacity : Nat}

namespace Machine

/-- The motion is the same; the staged image and the guard may differ. -/
structure Still (m m' : Machine H capacity) : Prop where
  planner : m'.planner = m.planner
  pipeline : m'.pipeline = m.pipeline
  position : m'.position = m.position
  runtime : m'.runtime =
    { m.runtime with staged := m'.runtime.staged, busy := m'.runtime.busy }

namespace Still

variable {m m' m'' : Machine H capacity}

protected theorem refl (m : Machine H capacity) : Still m m := ⟨rfl, rfl, rfl, rfl⟩

protected theorem trans (first : Still m m') (second : Still m' m'') : Still m m'' :=
  { planner := second.planner.trans first.planner
    pipeline := second.pipeline.trans first.pipeline
    position := second.position.trans first.position
    runtime := by rw [second.runtime, first.runtime] }

theorem after (second : Still m' m'') (first : Still m m') : Still m m'' := first.trans second

theorem load (still : Still m m') : m'.runtime.load = m.runtime.load := by rw [still.runtime]

theorem segment (still : Still m m') : m'.runtime.segment = m.runtime.segment := by
  rw [still.runtime]

theorem block (still : Still m m') : m'.runtime.block = m.runtime.block := by rw [still.runtime]

theorem stepsRemaining (still : Still m m') :
    m'.runtime.stepsRemaining = m.runtime.stepsRemaining := by rw [still.runtime]

theorem counters (still : Still m m') : m'.runtime.counters = m.runtime.counters := by
  rw [still.runtime]

theorem distance (still : Still m m') : m'.runtime.distance = m.runtime.distance := by
  rw [still.runtime]

end Still

def unstaged (m : Machine H capacity) : Machine H capacity :=
  { m with runtime := { m.runtime with staged := none } }

def rested (runState : RunState) (cycleStop : Bool) (m : Machine H capacity) : Machine H capacity :=
  { m.setBusy false with runState := runState, cycleStop := cycleStop }

theorem unstaged_of_none {m : Machine H capacity} (staged : m.runtime.staged = none) :
    m.unstaged = m := by
  rw [unstaged, ← staged]

theorem goIdle_kept (rig : Rig H) (m : Machine H capacity)
    (keep : rig.settings.keepEnabledWhenIdle = true ∧ m.runState ≠ .alarm) :
    goIdle rig m = (.ok (), (stopTicks rig m).setBusy false) := if_pos keep

theorem goIdle_released (rig : Rig H) (m : Machine H capacity)
    (release : ¬ (rig.settings.keepEnabledWhenIdle = true ∧ m.runState ≠ .alarm)) :
    goIdle rig m =
      { (stopTicks rig m).setBusy false with
        hardware := rig.delay.wait rig.settings.idleLockTime (stopTicks rig m).hardware }.write
        (rig.port.writeDisable rig.settings.disableLevel) := if_neg release

section Changes

/-! What is changed besides the hardware, whatever is refused. -/

variable (rig : Rig H) (m : Machine H capacity)

theorem goIdle_changes : ∃ hardware,
    (m.goIdle rig).2 = { m.setBusy false with hardware := hardware } := by
  simp only [goIdle]
  split
  · exact ⟨_, rfl⟩
  · exact ⟨_, rfl⟩

theorem finishCycle_changes : ∃ hardware runState,
    finishCycle rig m = { m.rested runState true with hardware := hardware } ∧
      (runState = .alarm ∨ runState = if m.runState = .cycle then .idle else m.runState) := by
  obtain ⟨hardware, same⟩ := goIdle_changes rig m
  cases idle : m.goIdle rig with
  | mk result m' =>
      obtain rfl : m' = _ := (congrArg Prod.snd idle).symm.trans same
      simp only [finishCycle, idle]
      cases result with
      | error cause => exact ⟨_, .alarm, rfl, Or.inl rfl⟩
      | ok => exact ⟨hardware, _, rfl, Or.inr rfl⟩

theorem onPulseReset_changes : ∃ hardware,
    m.onPulseReset rig = { m with hardware := hardware } ∨
      m.onPulseReset rig = enterAlarm rig { m with hardware := hardware } := by
  cases wrote : rig.port.writeStepLines rig.settings.invertMask.stepLines m.hardware with
  | mk result hardware =>
      refine ⟨hardware, ?_⟩
      simp only [onPulseReset, Machine.write, wrote]
      cases result with
      | ok => exact Or.inl rfl
      | error cause => exact Or.inr rfl

theorem applyStaged_changes : ∃ hardware,
    (applyStaged rig m).2 = { m.unstaged with hardware := hardware } := by
  simp only [applyStaged]
  split
  · next staged => exact ⟨m.hardware, (unstaged_of_none staged).symm⟩
  · next image staged =>
    cases wrote : rig.port.writeOutput image m.hardware with
    | mk result hardware =>
        simp only [Machine.write, wrote]
        cases result with
        | ok => exact ⟨_, rfl⟩
        | error cause => exact ⟨hardware, rfl⟩

end Changes

theorem still_goIdle (rig : Rig H) (m : Machine H capacity) : Still m (m.goIdle rig).2 := by
  obtain ⟨_, same⟩ := goIdle_changes rig m
  rw [same]
  exact ⟨rfl, rfl, rfl, rfl⟩

theorem still_enterAlarm (rig : Rig H) (m : Machine H capacity) : Still m (enterAlarm rig m) :=
  ⟨rfl, rfl, rfl, rfl⟩

theorem still_finishHold (rig : Rig H) (m : Machine H capacity) : Still m (finishHold rig m) :=
  ⟨rfl, rfl, rfl, rfl⟩

theorem still_finishCycle (rig : Rig H) (m : Machine H capacity) :
    Still m (finishCycle rig m) := by
  obtain ⟨_, _, same, _⟩ := finishCycle_changes rig m
  rw [same]
  exact ⟨rfl, rfl, rfl, rfl⟩

theorem still_applyStaged (rig : Rig H) (m : Machine H capacity) :
    Still m (applyStaged rig m).2 := by
  obtain ⟨_, same⟩ := applyStaged_changes rig m
  rw [same]
  exact ⟨rfl, rfl, rfl, rfl⟩

theorem still_onPulseReset (rig : Rig H) (m : Machine H capacity) :
    Still m (m.onPulseReset rig) := by
  obtain ⟨_, same | same⟩ := onPulseReset_changes rig m
  · rw [same]
    exact ⟨rfl, rfl, rfl, rfl⟩
  · rw [same]
    exact ⟨rfl, rfl, rfl, rfl⟩

def requestBlock (m : Machine H capacity) : Machine H capacity :=
  { m with runtime := { m.runtime with load := .block } }

def energized (rig : Rig H) (m : Machine H capacity) : Machine H capacity :=
  (m.write (rig.port.writeDisable rig.settings.enableLevel)).2

theorem wakeUp_cases (rig : Rig H) (m : Machine H capacity) :
    (∃ cause, m.wakeUp rig = (.error cause, m.energized rig)) ∨
      m.runState = .cycle ∧
        m.wakeUp rig = (.ok (), startTicks rig (m.energized rig).unstaged.requestBlock) ∨
      m.runState ≠ .cycle ∧ m.wakeUp rig = (.ok (), m.energized rig) := by
  have runState : (m.energized rig).runState = m.runState := rfl
  cases wrote : m.write (rig.port.writeDisable rig.settings.enableLevel) with
  | mk result m' =>
      have energized : m.energized rig = m' := congrArg Prod.snd wrote
      rw [energized] at runState
      cases result with
      | error cause =>
          left
          exact ⟨cause, by simp only [wakeUp, wrote, energized]⟩
      | ok =>
          right
          by_cases cycle : m.runState = .cycle
          · left
            simp only [wakeUp, wrote, energized, if_pos (runState.trans cycle)]
            exact ⟨cycle, rfl⟩
          · right
            have rest : m'.runState ≠ .cycle := runState ▸ cycle
            simp only [wakeUp, wrote, energized, if_neg rest]
            exact ⟨cycle, trivial⟩

theorem wakeUp_still (rig : Rig H) (m : Machine H capacity) :
    Still m (m.wakeUp rig).2 ∨ Still m.requestBlock (m.wakeUp rig).2 := by
  rcases wakeUp_cases rig m with ⟨cause, same⟩ | ⟨_, same⟩ | ⟨_, same⟩
  · rw [same]
    exact Or.inl ⟨rfl, rfl, rfl, rfl⟩
  · rw [same]
    exact Or.inr ⟨rfl, rfl, rfl, rfl⟩
  · rw [same]
    exact Or.inl ⟨rfl, rfl, rfl, rfl⟩

theorem init_changes (rig : Rig H) (m : Machine H capacity) : ∃ hardware,
    (m.init rig).2 = { m.reset with hardware := hardware } := by
  cases parked : rig.port.writeOutput rig.settings.invertMask m.hardware with
  | mk result hardware =>
      have wrote : m.reset.write (rig.port.writeOutput rig.settings.invertMask) =
          (result, { m.reset with hardware := hardware }) := by
        simp only [Machine.write, Machine.reset, parked]
      simp only [init, wrote]
      cases result with
      | error cause => exact ⟨hardware, rfl⟩
      | ok =>
          dsimp only
          rcases wakeUp_cases rig { m.reset with hardware := hardware } with
            ⟨cause, woken⟩ | ⟨_, woken⟩ | ⟨_, woken⟩
          · rw [woken]
            exact ⟨_, rfl⟩
          · rw [woken]
            obtain ⟨_, idle⟩ := goIdle_changes rig _
            exact ⟨_, idle⟩
          · rw [woken]
            obtain ⟨_, idle⟩ := goIdle_changes rig _
            exact ⟨_, idle⟩

theorem still_init (rig : Rig H) (m : Machine H capacity) : Still m.reset (m.init rig).2 := by
  obtain ⟨_, same⟩ := init_changes rig m
  rw [same]
  exact ⟨rfl, rfl, rfl, rfl⟩

/-- What is loaded when a tick goes on to advance, and whether that begins a block. -/
inductive Loads (rig : Rig H) (m : Machine H capacity) : Machine H capacity → Bool → Prop
  | nothing : m.runtime.load = .nothing → Loads rig m m false
  | segment {s : Segment} :
      m.runtime.load = .segment → m.pipeline.segments.peek? = some s →
      Loads rig m (finishLoad rig (loadSegment m s)) false
  | block {s : Segment} {b : Block} :
      m.runtime.load = .block → m.pipeline.segments.peek? = some s →
      m.planner.current? = some b →
      Loads rig m (finishLoad rig (loadBlock rig (loadSegment m s) b.active)) true

namespace Loads

variable {rig : Rig H} {m ready : Machine H capacity} {loadsBlock : Bool}

theorem hardware (loads : Loads rig m ready loadsBlock) : ready.hardware = m.hardware := by
  cases loads <;> rfl

theorem planner (loads : Loads rig m ready loadsBlock) : ready.planner = m.planner := by
  cases loads <;> rfl

theorem pipeline (loads : Loads rig m ready loadsBlock) : ready.pipeline = m.pipeline := by
  cases loads <;> rfl

theorem position (loads : Loads rig m ready loadsBlock) : ready.position = m.position := by
  cases loads <;> rfl

theorem runState (loads : Loads rig m ready loadsBlock) : ready.runState = m.runState := by
  cases loads <;> rfl

theorem load (loads : Loads rig m ready loadsBlock) : ready.runtime.load = .nothing := by
  cases loads with
  | nothing load => exact load
  | segment => rfl
  | block => rfl

theorem staged (loads : Loads rig m ready false) : ready.runtime.staged = m.runtime.staged := by
  cases loads <;> rfl

theorem due_iff (loads : Loads rig m ready loadsBlock) :
    m.runtime.load = .block ↔ loadsBlock = true := by
  cases loads with
  | nothing load => simp [load]
  | segment due => simp [due]
  | block due => simp [due]

end Loads

section Execute

variable {rig : Rig H} {m : Machine H capacity} {s : Segment}

theorem execute_loaded (load : m.runtime.load = .nothing) :
    execute rig m = advance rig m false := if_pos load

theorem execute_held (due : m.runtime.load ≠ .nothing) (hold : m.runState = .hold) :
    execute rig m = finishHold rig m := by
  simp only [execute, if_neg due, if_pos hold]

theorem execute_dry (due : m.runtime.load ≠ .nothing) (unheld : m.runState ≠ .hold)
    (empty : m.pipeline.segments.peek? = none) : execute rig m = finishCycle rig m := by
  simp only [execute, if_neg due, if_neg unheld, empty]

theorem execute_segment (due : m.runtime.load = .segment) (unheld : m.runState ≠ .hold)
    (peeked : m.pipeline.segments.peek? = some s) :
    execute rig m = advance rig (finishLoad rig (loadSegment m s)) false := by
  simp [execute, due, if_neg unheld, peeked]

theorem execute_orphaned (due : m.runtime.load = .block) (unheld : m.runState ≠ .hold)
    (peeked : m.pipeline.segments.peek? = some s) (missing : m.planner.current? = none) :
    execute rig m = enterAlarm rig (loadSegment m s) := by
  have missing' : (loadSegment m s).planner.current? = none := missing
  simp [execute, due, if_neg unheld, peeked, missing']

theorem execute_block {b : Block} (due : m.runtime.load = .block) (unheld : m.runState ≠ .hold)
    (peeked : m.pipeline.segments.peek? = some s) (current : m.planner.current? = some b) :
    execute rig m = advance rig (finishLoad rig (loadBlock rig (loadSegment m s) b.active)) true := by
  have current' : (loadSegment m s).planner.current? = some b := current
  simp [execute, due, if_neg unheld, peeked, current']

end Execute

inductive Executes (rig : Rig H) (m : Machine H capacity) : Machine H capacity → Prop
  | advances {ready : Machine H capacity} {loadsBlock : Bool} :
      Loads rig m ready loadsBlock → Executes rig m (advance rig ready loadsBlock)
  | holds : m.runState = .hold → Executes rig m (finishHold rig m)
  | runsDry :
      m.runtime.load ≠ .nothing → m.runState ≠ .hold → m.pipeline.segments.peek? = none →
      Executes rig m (finishCycle rig m)
  | orphaned {s : Segment} :
      m.pipeline.segments.peek? = some s → m.planner.current? = none →
      Executes rig m (enterAlarm rig (loadSegment m s))

theorem executes {rig : Rig H} {m m' : Machine H capacity} (executed : execute rig m = m') :
    Executes rig m m' := by
  subst executed
  simp only [execute]
  split
  · next load => exact .advances (.nothing load)
  · next due =>
    split
    · next hold => exact .holds hold
    · next running =>
      split
      · next empty => exact .runsDry due running empty
      · next s queued =>
        split
        · next block =>
          split
          · next missing => exact .orphaned queued missing
          · next b found => exact .advances (.block (eq_of_beq block) queued found)
        · next other =>
          have load : m.runtime.load = .segment := by
            cases h : m.runtime.load <;> simp_all
          exact .advances (.segment load queued)

def nextRamp (rig : Rig H) (m : Machine H capacity) : Ramp :=
  let rates := (m.pipeline.blocks.get m.runtime.segment.slot).rates
  m.runtime.ramp.update rates.nominal rates.delta rig.settings.rampPeriod

def nextDistance (rig : Rig H) (m : Machine H capacity) : Int :=
  m.runtime.distance - ((nextRamp rig m).ratePerTick rig.settings.minimumStepRate).toNat

def stepDistance (m : Machine H capacity) : Nat :=
  (m.pipeline.blocks.get m.runtime.segment.slot).rates.stepDistance.toNat

def paced (rig : Rig H) (m : Machine H capacity) (distance : Int) : Machine H capacity :=
  { m with runtime := { m.runtime with ramp := nextRamp rig m, distance := distance } }

inductive Advances (rig : Rig H) (m : Machine H capacity) (loadsBlock : Bool) :
    Machine H capacity → Prop
  | coasts :
      0 ≤ nextDistance rig m ∨ loadsBlock = true →
      Advances rig m loadsBlock ((paced rig m (nextDistance rig m)).setBusy false)
  | steps :
      nextDistance rig m < 0 → loadsBlock = false →
      Advances rig m loadsBlock
        ((stepEvent rig (paced rig m (nextDistance rig m + stepDistance m))).setBusy false)

section Advance

variable {rig : Rig H} {m m' : Machine H capacity} {loadsBlock : Bool}

theorem advance_of_due (due : nextDistance rig m < 0 ∧ ¬ loadsBlock = true) :
    advance rig m loadsBlock =
      (stepEvent rig (paced rig m (nextDistance rig m + stepDistance m))).setBusy false :=
  if_pos due

theorem advance_of_not_due (rest : ¬ (nextDistance rig m < 0 ∧ ¬ loadsBlock = true)) :
    advance rig m loadsBlock = (paced rig m (nextDistance rig m)).setBusy false := if_neg rest

theorem advances (advanced : advance rig m loadsBlock = m') : Advances rig m loadsBlock m' := by
  subst advanced
  by_cases due : nextDistance rig m < 0 ∧ ¬ loadsBlock = true
  · rw [advance_of_due due]
    exact .steps due.1 (Bool.eq_false_iff.mpr due.2)
  · rw [advance_of_not_due due]
    apply Advances.coasts
    by_cases block : loadsBlock = true
    · exact Or.inr block
    · exact Or.inl (Int.not_lt.mp fun negative => due ⟨negative, block⟩)

end Advance

namespace Advances

variable {rig : Rig H} {m m' : Machine H capacity} {loadsBlock : Bool}

theorem hardware (advances : Advances rig m loadsBlock m') : m'.hardware = m.hardware := by
  cases advances <;> rfl

theorem runState (advances : Advances rig m loadsBlock m') : m'.runState = m.runState := by
  cases advances <;> rfl

end Advances

section Loaded

variable {rig : Rig H} {m ready : Machine H capacity} {loadsBlock : Bool}

theorem Loads.hardware_advance (loads : Loads rig m ready loadsBlock) :
    (advance rig ready loadsBlock).hardware = m.hardware :=
  (advances rfl).hardware.trans loads.hardware

theorem Loads.runState_advance (loads : Loads rig m ready loadsBlock) :
    (advance rig ready loadsBlock).runState = m.runState :=
  (advances rfl).runState.trans loads.runState

end Loaded

end Machine

inductive Ticks (rig : Rig H) (m : Machine H capacity) : Machine H capacity → Prop
  | still {m' : Machine H capacity} : Still m m' → Ticks rig m m'
  | advanced {m₀ ready m' : Machine H capacity} {loadsBlock : Bool} :
      Still m m₀ → Loads rig m₀ ready loadsBlock → Advances rig ready loadsBlock m' →
      Ticks rig m m'
  | orphaned {m₀ : Machine H capacity} {s : Segment} :
      Still m m₀ → m₀.pipeline.segments.peek? = some s → m₀.planner.current? = none →
      Ticks rig m (enterAlarm rig (loadSegment m₀ s))

/-- What an operation other than slicing and ticking does, as long as the planner's blocks are left
to the machine. -/
inductive Effect (rig : Rig H) (m : Machine H capacity) : Machine H capacity → Prop
  | still {m' : Machine H capacity} : Still m m' → Effect rig m m'
  | asked {m' : Machine H capacity} : Still m.requestBlock m' → Effect rig m m'
  | restarted {m' : Machine H capacity} : Still m.reset m' → Effect rig m m'
  | queued {b : Block} {number : UInt64} {planner : BlockQueue capacity} :
      m.planner.push b = .ok (number, planner) → Effect rig m { m with planner := planner }
  | placed (axis : Axis) (steps : Steps) : Effect rig m (m.setPosition axis steps)

def Operation.keepsBlocks : Operation → Bool
  | .discardBlock => false
  | .clearBlocks => false
  | _ => true

namespace Machine

section Tick

variable {rig : Rig H} {m m₀ : Machine H capacity}

theorem applyStaged_none (staged : m.runtime.staged = none) :
    applyStaged rig m = (.ok (), m) := by
  simp only [applyStaged, staged]

theorem applyStaged_refused {image : Lines} {cause : LineError}
    (staged : m.runtime.staged = some image)
    (refused : m.unstaged.write (rig.port.writeOutput image) = (.error cause, m₀)) :
    applyStaged rig m = (.error cause, m₀) := by
  rw [unstaged] at refused
  simp only [applyStaged, staged, refused]

theorem applyStaged_taken {image : Lines} (staged : m.runtime.staged = some image)
    (taken : m.unstaged.write (rig.port.writeOutput image) = (.ok (), m₀)) :
    applyStaged rig m =
      (.ok (), { m₀ with
        hardware := rig.port.timer.armPulseReset rig.settings.pulseWidth m₀.hardware }) := by
  rw [unstaged] at taken
  simp only [applyStaged, staged, taken]

theorem still_begun (taken : applyStaged rig m = (.ok (), m₀)) : Still m (m₀.setBusy true) := by
  have still := still_applyStaged rig m
  rw [taken] at still
  exact still.trans ⟨rfl, rfl, rfl, rfl⟩

theorem still_alarmed {cause : LineError} (refused : applyStaged rig m = (.error cause, m₀)) :
    Still m (enterAlarm rig m₀) := by
  have still := still_applyStaged rig m
  rw [refused] at still
  exact still.trans (still_enterAlarm rig m₀)

theorem tick_busy (busy : m.runtime.busy = true) : m.tick rig = m := if_pos busy

theorem tick_refused {cause : LineError} (free : m.runtime.busy = false)
    (refused : applyStaged rig m = (.error cause, m₀)) : m.tick rig = enterAlarm rig m₀ := by
  rw [tick, free, refused]
  rfl

theorem tick_applied (free : m.runtime.busy = false) (applied : applyStaged rig m = (.ok (), m₀)) :
    m.tick rig = execute rig (m₀.setBusy true) := by
  rw [tick, free, applied]
  rfl

end Tick

end Machine

/-- A tick that finds the guard down is refused its image, or executes. -/
theorem tick_acts (rig : Rig H) {m : Machine H capacity} (free : m.runtime.busy = false) :
    (∃ cause m₀, applyStaged rig m = (.error cause, m₀) ∧ m.tick rig = enterAlarm rig m₀) ∨
      ∃ m₀, applyStaged rig m = (.ok (), m₀) ∧ m.tick rig = execute rig (m₀.setBusy true) := by
  cases applied : applyStaged rig m with
  | mk result m₀ =>
      cases result with
      | error cause => exact Or.inl ⟨cause, m₀, rfl, tick_refused free applied⟩
      | ok => exact Or.inr ⟨m₀, rfl, tick_applied free applied⟩

theorem tick_cases (rig : Rig H) (m : Machine H capacity) :
    m.runtime.busy = true ∧ m.tick rig = m ∨
      (∃ cause m₀, applyStaged rig m = (.error cause, m₀) ∧ m.tick rig = enterAlarm rig m₀) ∨
      ∃ m₀, applyStaged rig m = (.ok (), m₀) ∧ Executes rig (m₀.setBusy true) (m.tick rig) := by
  cases busy : m.runtime.busy with
  | true => exact Or.inl ⟨rfl, tick_busy busy⟩
  | false =>
      right
      rcases tick_acts rig busy with refused | ⟨m₀, taken, same⟩
      · exact Or.inl refused
      · exact Or.inr ⟨m₀, taken, executes same.symm⟩

theorem Machine.ticks (rig : Rig H) (m : Machine H capacity) : Ticks rig m (m.tick rig) := by
  rcases tick_cases rig m with ⟨_, same⟩ | ⟨cause, m₀, refused, same⟩ | ⟨m₀, taken, executes⟩
  · rw [same]
    exact .still (Still.refl m)
  · rw [same]
    exact .still (still_alarmed refused)
  · have begun := still_begun taken
    generalize m.tick rig = m' at executes
    cases executes with
    | advances loads => exact .advanced begun loads (Machine.advances rfl)
    | holds => exact .still (begun.trans (still_finishHold rig _))
    | runsDry => exact .still (begun.trans (still_finishCycle rig _))
    | orphaned queued missing => exact .orphaned begun queued missing

theorem runState_applyStaged (rig : Rig H) (m : Machine H capacity) :
    (applyStaged rig m).2.runState = m.runState := by
  obtain ⟨_, same⟩ := applyStaged_changes rig m
  rw [same]
  rfl

theorem runState_wakeUp (rig : Rig H) (m : Machine H capacity) :
    (m.wakeUp rig).2.runState = m.runState := by
  rcases wakeUp_cases rig m with ⟨cause, same⟩ | ⟨_, same⟩ | ⟨_, same⟩
  · rw [same]
    rfl
  · rw [same]
    rfl
  · rw [same]
    rfl

theorem staged_applyStaged (rig : Rig H) (m : Machine H capacity) :
    (applyStaged rig m).2.runtime.staged = none := by
  obtain ⟨_, same⟩ := applyStaged_changes rig m
  rw [same]
  rfl

theorem staged_finishCycle (rig : Rig H) (m : Machine H capacity) :
    (finishCycle rig m).runtime.staged = m.runtime.staged := by
  obtain ⟨_, _, same, _⟩ := finishCycle_changes rig m
  rw [same]
  rfl

def Operation.restarts : Operation → Bool
  | .init => true
  | .reset => true
  | _ => false

inductive Interlude (m : Machine H capacity) : Machine H capacity → Prop
  | still {m' : Machine H capacity} : Still m m' → Interlude m m'
  | asked {m' : Machine H capacity} : Still m.requestBlock m' → Interlude m m'
  | queued {b : Block} {number : UInt64} {planner : BlockQueue capacity} :
      m.planner.push b = .ok (number, planner) → Interlude m { m with planner := planner }
  | placed (axis : Axis) (steps : Steps) : Interlude m (m.setPosition axis steps)

theorem Interlude.effect {rig : Rig H} {m m' : Machine H capacity} (interlude : Interlude m m') :
    Effect rig m m' := by
  cases interlude with
  | still still => exact .still still
  | asked still => exact .asked still
  | queued pushed => exact .queued pushed
  | placed axis steps => exact .placed axis steps

theorem cycleStart_interlude (rig : Rig H) (m : Machine H capacity) :
    Interlude m (m.cycleStart rig).2 := by
  simp only [cycleStart]
  split
  · rcases wakeUp_still rig { m with runState := .cycle } with still | asked
    · exact .still (still.after ⟨rfl, rfl, rfl, rfl⟩)
    · exact .asked (asked.after ⟨rfl, rfl, rfl, rfl⟩)
  · exact .still ⟨rfl, rfl, rfl, rfl⟩
  · exact .still (Still.refl m)

theorem prepareSegments_performed {rig : Rig H} {m m' : Machine H capacity} {reply : Reply}
    (performed : m.perform rig .prepareSegments = .ok (reply, m')) :
    ∃ p count, m.pipeline.fill m.planner.source rig.sizing rig.settings SegmentRing.capacity =
      .ok (p, count) ∧ m' = { m with pipeline := p } := by
  rw [perform, prepareSegments, Pipeline.prepare] at performed
  split at performed
  · cases performed
  · next p count filled =>
    obtain ⟨_, rfl⟩ := Prod.mk.inj (Except.ok.inj performed)
    exact ⟨p, count, filled, rfl⟩

/-- What each operation makes of the machine, when it does not end in a fault. -/
inductive Performs (rig : Rig H) (m : Machine H capacity) : Operation → Machine H capacity → Prop
  | init : Performs rig m .init (m.init rig).2
  | reset : Performs rig m .reset m.reset
  | wakeUp : Performs rig m .wakeUp (m.wakeUp rig).2
  | goIdle : Performs rig m .goIdle (m.goIdle rig).2
  | queue : m.runState = .idle → Performs rig m .queue { m with runState := .queued }
  | queueUnheeded : m.runState ≠ .idle → Performs rig m .queue m
  | cycleStart : Performs rig m .cycleStart (m.cycleStart rig).2
  | feedHold : m.runState = .cycle → Performs rig m .feedHold { m with runState := .hold }
  | feedHoldUnheeded : m.runState ≠ .cycle → Performs rig m .feedHold m
  | acknowledge : Performs rig m .acknowledge m.acknowledge
  | alarm : Performs rig m .alarm (m.alarm rig).2
  | prepareSegments {p : Pipeline} {count : Nat} :
      m.pipeline.fill m.planner.source rig.sizing rig.settings SegmentRing.capacity =
        .ok (p, count) → Performs rig m .prepareSegments { m with pipeline := p }
  | tick : Performs rig m .tick (m.tick rig)
  | pulseReset : Performs rig m .pulseReset (m.onPulseReset rig)
  | takeCycleStop : Performs rig m .takeCycleStop m.takeCycleStop.2
  | setPosition (axis : Axis) (steps : Steps) :
      Performs rig m (.setPosition axis steps) (m.setPosition axis steps)
  | pushBlock {b : Block} {number : UInt64} {planner : BlockQueue capacity} :
      m.planner.push b = .ok (number, planner) →
      Performs rig m (.pushBlock b) { m with planner := planner }
  | pushRejected {b : Block} {cause : BlockError} :
      m.planner.push b = .error cause → Performs rig m (.pushBlock b) m
  | discardBlock : Performs rig m .discardBlock { m with planner := m.planner.discard }
  | clearBlocks : Performs rig m .clearBlocks { m with planner := m.planner.clear }

theorem performs {rig : Rig H} {m m' : Machine H capacity} {op : Operation} {reply : Reply}
    (performed : m.perform rig op = .ok (reply, m')) : Performs rig m op m' := by
  by_cases slicing : op = .prepareSegments
  · subst slicing
    obtain ⟨p, count, filled, rfl⟩ := prepareSegments_performed performed
    exact .prepareSegments filled
  · cases op with
    | prepareSegments => exact absurd rfl slicing
    | queue =>
        obtain ⟨_, rfl⟩ := Prod.mk.inj (Except.ok.inj performed)
        rw [queue]
        split
        · next idle => exact .queue idle
        · next other => exact .queueUnheeded other
    | feedHold =>
        obtain ⟨_, rfl⟩ := Prod.mk.inj (Except.ok.inj performed)
        rw [feedHold]
        split
        · next cycle => exact .feedHold cycle
        · next other => exact .feedHoldUnheeded other
    | pushBlock b =>
        have pushed : m.pushBlock b = (reply, m') := Except.ok.inj performed
        rw [pushBlock] at pushed
        split at pushed
        · next number planner taken =>
          obtain ⟨_, rfl⟩ := Prod.mk.inj pushed
          exact .pushBlock taken
        · next cause rejected =>
          obtain ⟨_, rfl⟩ := Prod.mk.inj pushed
          exact .pushRejected rejected
    | _ =>
        obtain ⟨_, rfl⟩ := Prod.mk.inj (Except.ok.inj performed)
        constructor

theorem perform_interlude {rig : Rig H} {m m' : Machine H capacity} {op : Operation} {reply : Reply}
    (keeps : op.keepsBlocks = true) (goesOn : op.restarts = false)
    (notSlicing : op ≠ .prepareSegments) (notTicking : op ≠ .tick)
    (performed : m.perform rig op = .ok (reply, m')) : Interlude m m' := by
  cases performs performed with
  | init => contradiction
  | reset => contradiction
  | discardBlock => contradiction
  | clearBlocks => contradiction
  | prepareSegments => exact absurd rfl notSlicing
  | tick => exact absurd rfl notTicking
  | wakeUp =>
      rcases wakeUp_still rig m with still | asked
      · exact .still still
      · exact .asked asked
  | cycleStart => exact cycleStart_interlude rig m
  | goIdle => exact .still (still_goIdle rig m)
  | alarm => exact .still ((still_goIdle rig _).after ⟨rfl, rfl, rfl, rfl⟩)
  | pulseReset => exact .still (still_onPulseReset rig m)
  | setPosition axis steps => exact .placed axis steps
  | pushBlock pushed => exact .queued pushed
  | _ => exact .still ⟨rfl, rfl, rfl, rfl⟩

theorem perform_restarts {rig : Rig H} {m m' : Machine H capacity} {op : Operation} {reply : Reply}
    (restarts : op.restarts = true) (performed : m.perform rig op = .ok (reply, m')) :
    Still m.reset m' := by
  cases performs performed with
  | init => exact still_init rig m
  | reset => exact Still.refl _
  | _ => contradiction

theorem perform_effect {rig : Rig H} {m m' : Machine H capacity} {op : Operation} {reply : Reply}
    (keeps : op.keepsBlocks = true) (notSlicing : op ≠ .prepareSegments) (notTicking : op ≠ .tick)
    (performed : m.perform rig op = .ok (reply, m')) : Effect rig m m' := by
  cases restarts : op.restarts with
  | false => exact (perform_interlude keeps restarts notSlicing notTicking performed).effect
  | true => exact .restarted (perform_restarts restarts performed)

end StepPulse
