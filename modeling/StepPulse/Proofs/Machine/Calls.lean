import StepPulse.Proofs.Machine.Effect
import StepPulse.Proofs.Machine.Journal

/-! What each operation calls for on watched hardware, and which fields it changes besides. -/

namespace StepPulse

variable {H : Type} {capacity : Nat}

def Rig.releasing (rig : Rig H) (refusal : Option LineError) : Entry :=
  ⟨.disable rig.settings.disableLevel, refusal⟩

def Rig.energizing (rig : Rig H) (refusal : Option LineError) : Entry :=
  ⟨.disable rig.settings.enableLevel, refusal⟩

namespace Machine

/-- The machine after the given calls, latest first. -/
def after (calls : Journal) (hardware : H) (m : Machine (Watched H) capacity) :
    Machine (Watched H) capacity :=
  { m with hardware := { hardware := hardware, journal := calls ++ m.journal } }

/-- The calls that bring a machine to rest: a stop, an idle that releases the drivers, an alarm, and
an alarm after such an idle. -/
inductive Halting (rig : Rig H) : Journal → Prop
  | stop : Halting rig [⟨.stopTicks, none⟩]
  | idle (refusal : Option LineError) :
      Halting rig [rig.releasing refusal, ⟨.wait rig.settings.idleLockTime, none⟩, ⟨.stopTicks, none⟩]
  | alarm (refusal : Option LineError) : Halting rig [rig.releasing refusal, ⟨.stopTicks, none⟩]
  | idleAlarm (cause refusal : Option LineError) :
      Halting rig [rig.releasing refusal, ⟨.stopTicks, none⟩, rig.releasing cause,
        ⟨.wait rig.settings.idleLockTime, none⟩, ⟨.stopTicks, none⟩]

inductive Rests (rig : Rig H) (m : Machine (Watched H) capacity) (runState : RunState)
    (cycleStop : Bool) : Machine (Watched H) capacity → Prop
  | after {calls : Journal} {hardware : H} :
      Halting rig calls →
      Rests rig m runState cycleStop ((m.rested runState cycleStop).after calls hardware)

inductive Idling (rig : Rig H) (runState : RunState) : Except LineError Unit → Journal → Prop
  | kept :
      rig.settings.keepEnabledWhenIdle = true ∧ runState ≠ .alarm →
      Idling rig runState (.ok ()) [⟨.stopTicks, none⟩]
  | released {result : Except LineError Unit} {before : H} :
      ¬ (rig.settings.keepEnabledWhenIdle = true ∧ runState ≠ .alarm) →
      (rig.port.writeDisable rig.settings.disableLevel before).1 = result →
      Idling rig runState result [rig.releasing (Watched.refusal result),
        ⟨.wait rig.settings.idleLockTime, none⟩, ⟨.stopTicks, none⟩]

inductive Finishes (rig : Rig H) (m : Machine (Watched H) capacity) :
    Machine (Watched H) capacity → Prop
  | ended {calls : Journal} {hardware : H} :
      Idling rig m.runState (.ok ()) calls →
      Finishes rig m
        ((m.rested (if m.runState = .cycle then .idle else m.runState) true).after calls hardware)
  | alarmed {cause : LineError} {before hardware : H} :
      (rig.port.writeDisable rig.settings.disableLevel before).1 = .error cause →
      Finishes rig m (enterAlarm rig.watched ((m.setBusy false).after
        [rig.releasing (some cause), ⟨.wait rig.settings.idleLockTime, none⟩, ⟨.stopTicks, none⟩]
        hardware))

inductive EndsPulse (rig : Rig H) (m : Machine (Watched H) capacity) :
    Machine (Watched H) capacity → Prop
  | taken {hardware : H} :
      EndsPulse rig m (m.after [⟨.stepLines rig.settings.invertMask.stepLines, none⟩] hardware)
  | refused {cause : LineError} {hardware : H} :
      (rig.port.writeStepLines rig.settings.invertMask.stepLines m.hardware.hardware).1 =
        .error cause →
      EndsPulse rig m (enterAlarm rig.watched
        (m.after [⟨.stepLines rig.settings.invertMask.stepLines, some cause⟩] hardware))

inductive Applies (rig : Rig H) (m : Machine (Watched H) capacity) :
    Except LineError Unit × Machine (Watched H) capacity → Prop
  | nothing : m.runtime.staged = none → Applies rig m (.ok (), m)
  | refused {image : Lines} {cause : LineError} {hardware : H} :
      m.runtime.staged = some image →
      (rig.port.writeOutput image m.hardware.hardware).1 = .error cause →
      Applies rig m (.error cause, m.unstaged.after [⟨.output image, some cause⟩] hardware)
  | taken {image : Lines} {hardware : H} :
      m.runtime.staged = some image →
      Applies rig m (.ok (), m.unstaged.after
        [⟨.armPulseReset rig.settings.pulseWidth, none⟩, ⟨.output image, none⟩] hardware)

inductive Wakes (rig : Rig H) (m : Machine (Watched H) capacity) :
    Except LineError Unit × Machine (Watched H) capacity → Prop
  | refused {cause : LineError} {hardware : H} :
      (rig.port.writeDisable rig.settings.enableLevel m.hardware.hardware).1 = .error cause →
      Wakes rig m (.error cause, m.after [rig.energizing (some cause)] hardware)
  | started {hardware : H} :
      m.runState = .cycle →
      Wakes rig m (.ok (), m.unstaged.requestBlock.after
        [⟨.startTicks, none⟩, rig.energizing none] hardware)
  | energized {hardware : H} :
      m.runState ≠ .cycle → Wakes rig m (.ok (), m.after [rig.energizing none] hardware)

inductive Starts (rig : Rig H) (m : Machine (Watched H) capacity) :
    Except LineError Unit × Machine (Watched H) capacity → Prop
  | woken {r : Except LineError Unit × Machine (Watched H) capacity} :
      m.runState = .queued → Wakes rig { m with runState := .cycle } r → Starts rig m r
  | resumed {hardware : H} :
      m.runState = .hold →
      Starts rig m (.ok (), ({ m with runState := .cycle } : Machine (Watched H) capacity).after
        [⟨.startTicks, none⟩] hardware)
  | unheeded : m.runState ≠ .queued → m.runState ≠ .hold → Starts rig m (.ok (), m)

inductive Inits (rig : Rig H) (m : Machine (Watched H) capacity) :
    Except LineError Unit × Machine (Watched H) capacity → Prop
  | refused {cause : LineError} {hardware : H} :
      Inits rig m (.error cause,
        m.reset.after [⟨.output rig.settings.invertMask, some cause⟩] hardware)
  | unwoken {cause : LineError} {hardware : H} :
      Inits rig m (.error cause, m.reset.after
        [rig.energizing (some cause), ⟨.output rig.settings.invertMask, none⟩] hardware)
  | started {hardware : H} {result : Except LineError Unit} {m' : Machine (Watched H) capacity} :
      m.runState = .cycle →
      Rests rig (m.reset.after [⟨.startTicks, none⟩, rig.energizing none,
        ⟨.output rig.settings.invertMask, none⟩] hardware) m.runState m.cycleStop m' →
      Inits rig m (result, m')
  | rested {hardware : H} {result : Except LineError Unit} {m' : Machine (Watched H) capacity} :
      m.runState ≠ .cycle →
      Rests rig (m.reset.after [rig.energizing none,
        ⟨.output rig.settings.invertMask, none⟩] hardware) m.runState m.cycleStop m' →
      Inits rig m (result, m')

section Calls

variable (rig : Rig H) (m : Machine (Watched H) capacity)

theorem write_cases (call : Call) (write : Write H) :
    (∃ cause hardware, (write m.hardware.hardware).1 = .error cause ∧
      m.write (Watched.attempt call write) =
        (.error cause, m.after [⟨call, some cause⟩] hardware)) ∨
      ∃ hardware, m.write (Watched.attempt call write) =
        (.ok (), m.after [⟨call, none⟩] hardware) := by
  cases wrote : write m.hardware.hardware with
  | mk result hardware =>
      simp only [Machine.write, Watched.attempt, wrote]
      cases result with
      | error cause => exact Or.inl ⟨cause, hardware, rfl, rfl⟩
      | ok => exact Or.inr ⟨hardware, rfl⟩

theorem goIdle_after : ∃ result calls hardware, Idling rig m.runState result calls ∧
    m.goIdle rig.watched = (result, (m.setBusy false).after calls hardware) := by
  by_cases keep : rig.settings.keepEnabledWhenIdle = true ∧ m.runState ≠ .alarm
  · exact ⟨_, _, _, .kept keep, goIdle_kept rig.watched m keep⟩
  · exact ⟨_, _, _, .released keep rfl, goIdle_released rig.watched m keep⟩

theorem enterAlarm_after : ∃ before hardware, enterAlarm rig.watched m =
    (m.rested .alarm true).after
      [rig.releasing (Watched.refusal (rig.port.writeDisable rig.settings.disableLevel before).1),
        ⟨.stopTicks, none⟩] hardware := ⟨_, _, rfl⟩

theorem finishes : Finishes rig m (finishCycle rig.watched m) := by
  obtain ⟨result, calls, hardware, idling, idle⟩ := goIdle_after rig m
  simp only [finishCycle, idle]
  cases result with
  | ok => exact .ended idling
  | error cause =>
      cases idling with
      | released _ refused => exact .alarmed refused

theorem endsPulse : EndsPulse rig m (m.onPulseReset rig.watched) := by
  rcases write_cases m (.stepLines rig.settings.invertMask.stepLines)
    (rig.port.writeStepLines rig.settings.invertMask.stepLines) with
      ⟨cause, _, refused, wrote⟩ | ⟨_, wrote⟩
  · simp only [onPulseReset, Rig.watched, wrote]
    exact .refused refused
  · simp only [onPulseReset, Rig.watched, wrote]
    exact .taken

variable {rig m} in
theorem applies {r : Except LineError Unit × Machine (Watched H) capacity}
    (applied : applyStaged rig.watched m = r) : Applies rig m r := by
  subst applied
  cases staged : m.runtime.staged with
  | none =>
      rw [applyStaged_none staged]
      exact .nothing staged
  | some image =>
      rcases write_cases m.unstaged (.output image) (rig.port.writeOutput image) with
        ⟨cause, _, refused, wrote⟩ | ⟨_, wrote⟩
      · rw [applyStaged_refused staged wrote]
        exact .refused staged refused
      · rw [applyStaged_taken staged wrote]
        exact .taken staged

theorem wakes : Wakes rig m (m.wakeUp rig.watched) := by
  rcases write_cases m (.disable rig.settings.enableLevel)
    (rig.port.writeDisable rig.settings.enableLevel) with ⟨cause, _, refused, wrote⟩ | ⟨_, wrote⟩
  · simp only [wakeUp, Rig.watched, wrote]
    exact .refused refused
  · simp only [wakeUp, Rig.watched, wrote]
    split
    · next cycle => exact .started cycle
    · next rest => exact .energized rest

theorem starts : Starts rig m (m.cycleStart rig.watched) := by
  rw [cycleStart]
  split
  · next queued => exact .woken queued (wakes rig _)
  · next hold => exact .resumed hold
  · next queued hold => exact .unheeded queued hold

end Calls

section Rests

variable {rig : Rig H} {m m' : Machine (Watched H) capacity} {left : RunState}
  {notice : Bool}

theorem Rests.ticking (rests : Rests rig m left notice m') : m'.ticking = false := by
  cases rests with
  | after halting => cases halting <;> rfl

theorem Rests.cycleStop (rests : Rests rig m left notice m') : m'.cycleStop = notice := by
  cases rests
  rfl

theorem Rests.runState (rests : Rests rig m left notice m') : m'.runState = left := by
  cases rests
  rfl

theorem Wakes.runState {r : Except LineError Unit × Machine (Watched H) capacity}
    (wakes : Wakes rig m r) : r.2.runState = m.runState := by
  cases wakes <;> rfl

theorem Idling.halting {result : Except LineError Unit} {calls : Journal}
    (idling : Idling rig left result calls) : Halting rig calls := by
  cases idling with
  | kept => exact .stop
  | released => exact .idle _

/-- The settings and the run state decide which calls an idle makes. -/
theorem Idling.unique {result : Except LineError Unit} {calls calls' : Journal}
    (idling : Idling rig left result calls) (idling' : Idling rig left result calls') :
    calls = calls' := by
  cases idling with
  | kept keep =>
      cases idling' with
      | kept => rfl
      | released release => exact absurd keep release
  | released release =>
      cases idling' with
      | kept keep => exact absurd keep release
      | released => rfl

theorem Finishes.rests (finishes : Finishes rig m m') :
    ∃ runState, Rests rig m runState true m' ∧
      (runState = .alarm ∨ runState = if m.runState = .cycle then .idle else m.runState) := by
  cases finishes with
  | ended idling => exact ⟨_, .after idling.halting, Or.inr rfl⟩
  | alarmed => exact ⟨_, .after (.idleAlarm _ _), Or.inl rfl⟩

variable (rig m)

theorem goIdle_rests : Rests rig m m.runState m.cycleStop (m.goIdle rig.watched).2 := by
  obtain ⟨_, _, _, idling, idle⟩ := goIdle_after rig m
  rw [idle]
  exact .after idling.halting

theorem alarm_rests : Rests rig m .alarm m.cycleStop (m.alarm rig.watched).2 := by
  obtain ⟨_, _, _, idling, idle⟩ := goIdle_after rig { m with runState := .alarm }
  rw [alarm, idle]
  exact .after idling.halting

theorem enterAlarm_rests : Rests rig m .alarm true (enterAlarm rig.watched m) := .after (.alarm _)

theorem finishHold_rests : Rests rig m m.runState true (finishHold rig.watched m) := .after .stop

theorem inits : Inits rig m (m.init rig.watched) := by
  rcases write_cases m.reset (.output rig.settings.invertMask)
    (rig.port.writeOutput rig.settings.invertMask) with ⟨cause, _, _, parked⟩ | ⟨hardware, parked⟩
  · simp only [init, Rig.watched, parked]
    exact .refused
  · have wrote : m.reset.write (rig.watched.port.writeOutput rig.watched.settings.invertMask) =
        (.ok (), m.reset.after [⟨.output rig.settings.invertMask, none⟩] hardware) := parked
    have wakes := wakes rig (m.reset.after [⟨.output rig.settings.invertMask, none⟩] hardware)
    simp only [init, wrote]
    generalize wakeUp rig.watched _ = r at wakes ⊢
    cases wakes with
    | refused => exact .unwoken
    | started cycle => exact .started cycle (goIdle_rests rig _)
    | energized rest => exact .rested rest (goIdle_rests rig _)

end Rests

end Machine

end StepPulse
