import StepPulse.Proofs.Machine.Effect
import StepPulse.Proofs.Segment.Stream

/-! A machine that has its blocks whole, and counts the events of the block at the front. -/

namespace StepPulse

open Machine

variable {H : Type} {capacity : Nat}

/-- A machine that executes blocks without segments. -/
structure Unsegmented (H : Type) (capacity : Nat) where
  machine : Machine H capacity
  taken : Nat := 0

namespace Unsegmented

variable (rig : Rig H) (job : Job) (s : Unsegmented H capacity)

def begun : Unsegmented H capacity :=
  let rates := Rates.ofBlock job.block rig.settings
  let seed : Int := (job.block.events >>> 1).toNat
  { s with
    machine :=
      { s.machine with
        runtime :=
          { s.machine.runtime with
            block := job.block.active
            staged := some (job.block.active.directions ^^^ rig.settings.invertMask)
            counters := PerAxis.constant seed
            distance := rates.stepDistance.toNat
            ramp := Ramp.start rates.initial rig.settings.rampPeriod } } }

def turned : Unsegmented H capacity :=
  let ramp :=
    if job.breakpoint.toNat ≤ s.taken then
      s.machine.runtime.ramp.beginDeceleration rig.settings.rampPeriod
    else s.machine.runtime.ramp
  { s with
    machine := { s.machine with runtime := { s.machine.runtime with ramp := ramp, load := .nothing } } }

def loaded : Unsegmented H capacity :=
  (if s.machine.runtime.load = .block then s.begun rig job else s).turned rig job

variable {rig job s}

theorem loaded_of_due (due : s.machine.runtime.load = .block) :
    s.loaded rig job = (s.begun rig job).turned rig job := by
  rw [loaded, if_pos due]

theorem loaded_of_begun (begun : s.machine.runtime.load ≠ .block) :
    s.loaded rig job = s.turned rig job := by
  rw [loaded, if_neg begun]

theorem turned_eq {ramp : Ramp}
    (turns : (if job.breakpoint.toNat ≤ s.taken then
      s.machine.runtime.ramp.beginDeceleration rig.settings.rampPeriod
      else s.machine.runtime.ramp) = ramp) :
    s.turned rig job =
      { s with
        machine :=
          { s.machine with
            runtime := { s.machine.runtime with ramp := ramp, load := .nothing } } } := by
  rw [turned, turns]

variable (rig job s)

def stepped : Unsegmented H capacity :=
  let after := stepEvent rig s.machine
  let last := s.taken + 1 = job.events
  { machine :=
      { s.machine with
        position := after.position
        planner := if last then s.machine.planner.discard else s.machine.planner
        runtime :=
          { s.machine.runtime with
            counters := after.runtime.counters
            staged := after.runtime.staged
            load := if last then .block else .nothing } }
    taken := if last then 0 else s.taken + 1 }

def nextRamp : Ramp :=
  let rates := Rates.ofBlock job.block rig.settings
  s.machine.runtime.ramp.update rates.nominal rates.delta rig.settings.rampPeriod

def nextDistance : Int :=
  s.machine.runtime.distance -
    ((s.nextRamp rig job).ratePerTick rig.settings.minimumStepRate).toNat

def paced (distance : Int) : Unsegmented H capacity :=
  { s with
    machine :=
      { s.machine with
        runtime :=
          { s.machine.runtime with
            ramp := s.nextRamp rig job, distance := distance, busy := false } } }

def advanced (loadsBlock : Bool) : Unsegmented H capacity :=
  let stepDistance := (Rates.ofBlock job.block rig.settings).stepDistance.toNat
  if s.nextDistance rig job < 0 ∧ ¬ loadsBlock then
    (s.paced rig job (s.nextDistance rig job + stepDistance)).stepped rig job
  else s.paced rig job (s.nextDistance rig job)

def execute : Unsegmented H capacity :=
  match jobs s.machine.planner.blocks with
  | [] => { s with machine := finishCycle rig s.machine }
  | job :: _ => (s.loaded rig job).advanced rig job (s.machine.runtime.load == .block)

def tick : Unsegmented H capacity :=
  if s.machine.runtime.busy then s
  else
    match applyStaged rig s.machine with
    | (.error _, m) => { s with machine := enterAlarm rig m }
    | (.ok (), m) => execute rig { s with machine := m.setBusy true }

def perform : Operation → Unsegmented H capacity
  | .tick => s.tick rig
  | .pulseReset => { s with machine := s.machine.onPulseReset rig }
  | _ => s

end Unsegmented

namespace Machine

def unsegmented (m : Machine H capacity) : Machine H capacity :=
  { m with
    pipeline := {}
    runtime :=
      { m.runtime with
        segment := {}
        stepsRemaining := 0
        load := if m.runtime.load = .block then .block else .nothing } }

variable (rig : Rig H) (m : Machine H capacity)

theorem unsegmented_due : m.unsegmented.runtime.load = .block ↔ m.runtime.load = .block := by
  simp only [unsegmented]
  split
  · next due => simp [due]
  · next begun => simp [begun]

theorem write_unsegmented (w : Write H) :
    m.unsegmented.write w = ((m.write w).1, (m.write w).2.unsegmented) := rfl

theorem applyStaged_unsegmented :
    applyStaged rig m.unsegmented = ((applyStaged rig m).1, (applyStaged rig m).2.unsegmented) := by
  have same : m.unsegmented.runtime.staged = m.runtime.staged := rfl
  have here : m.unsegmented.hardware = m.hardware := rfl
  cases staged : m.runtime.staged with
  | none => simp only [applyStaged, same, staged]
  | some image =>
      cases written : rig.port.writeOutput image m.hardware with
      | mk result hardware =>
          simp only [applyStaged, same, staged, write, here, written]
          cases result <;> rfl

theorem goIdle_unsegmented :
    goIdle rig m.unsegmented = ((goIdle rig m).1, (goIdle rig m).2.unsegmented) := by
  by_cases keep : rig.settings.keepEnabledWhenIdle = true ∧ m.runState ≠ .alarm
  · rw [goIdle_kept rig m keep, goIdle_kept rig m.unsegmented keep]
    rfl
  · rw [goIdle_released rig m keep, goIdle_released rig m.unsegmented keep]
    rfl

theorem finishCycle_unheld (unheld : m.runState ≠ .hold) : (finishCycle rig m).runState ≠ .hold := by
  obtain ⟨_, runState, same, alarm | ended⟩ := finishCycle_changes rig m
  · rw [same, alarm]
    exact RunState.noConfusion
  · rw [same, ended]
    show (if m.runState = .cycle then RunState.idle else m.runState) ≠ .hold
    split
    · exact RunState.noConfusion
    · exact unheld

theorem onPulseReset_unheld (unheld : m.runState ≠ .hold) :
    (onPulseReset rig m).runState ≠ .hold := by
  obtain ⟨_, same | same⟩ := onPulseReset_changes rig m
  · rw [same]
    exact unheld
  · rw [same]
    exact RunState.noConfusion

theorem finishCycle_unsegmented :
    finishCycle rig m.unsegmented = (finishCycle rig m).unsegmented := by
  rw [finishCycle, finishCycle, goIdle_unsegmented]
  cases goIdle rig m with
  | mk result m' => cases result <;> rfl

theorem onPulseReset_unsegmented :
    onPulseReset rig m.unsegmented = (onPulseReset rig m).unsegmented := by
  rw [onPulseReset, onPulseReset, write_unsegmented]
  cases m.write (rig.port.writeStepLines rig.settings.invertMask.stepLines) with
  | mk result m' => cases result <;> rfl

end Machine

end StepPulse
