import StepPulse.Proofs.Machine.Supply

/-!
The alarm is latched. Ticks are started in two places only, by a wake-up in a cycle and by a cycle
start out of a hold, and nothing but a cycle start leads into a cycle. So no way out of an alarm
goes past the operator, who has to acknowledge it.
-/

namespace StepPulse

open Machine

variable {H : Type} {capacity : Nat} {rig : Rig H}

/-- Calls were made in between, but none that starts the tick source. -/
def Unstarted (m m' : Machine (Watched H) capacity) : Prop :=
  ∃ calls, m'.journal = calls ++ m.journal ∧ ∀ entry ∈ calls, entry.call ≠ .startTicks

namespace Unstarted

variable {m m' m'' : Machine (Watched H) capacity}

theorem of_journal (same : m'.journal = m.journal) : Unstarted m m' := CallsOnly.of_journal same

protected theorem refl (m : Machine (Watched H) capacity) : Unstarted m m := CallsOnly.refl m

protected theorem trans (first : Unstarted m m') (second : Unstarted m' m'') : Unstarted m m'' :=
  CallsOnly.trans first second

theorem suffix (unstarted : Unstarted m m') : m.journal <:+ m'.journal :=
  CallsOnly.suffix unstarted

theorem silent (unstarted : Unstarted m m') (silent : m.ticking = false) :
    m'.ticking = false := by
  obtain ⟨calls, journal, others⟩ := unstarted
  rw [ticking, journal]
  clear journal
  induction calls with
  | nil => exact silent
  | cons entry calls ih =>
      have earlier := ih fun entry' member => others entry' (List.mem_cons_of_mem _ member)
      have other := others entry List.mem_cons_self
      cases entry with
      | mk call refusal =>
          cases call
          case startTicks => exact absurd rfl other
          case stopTicks => rfl
          all_goals exact earlier

end Unstarted

theorem Machine.Halting.others {calls : Journal} (halting : Halting rig calls) :
    ∀ entry ∈ calls, entry.call ≠ .startTicks := by
  cases halting <;> simp [Rig.releasing]

theorem Machine.Rests.unstarted {m m' : Machine (Watched H) capacity} {runState : RunState}
    {cycleStop : Bool} (rests : Rests rig m runState cycleStop m') : Unstarted m m' := by
  cases rests with
  | after halting => exact ⟨_, rfl, halting.others⟩

theorem Machine.EndsPulse.unstarted {m m' : Machine (Watched H) capacity}
    (ends : EndsPulse rig m m') : Unstarted m m' := by
  cases ends with
  | taken => exact ⟨_, rfl, by simp⟩
  | refused =>
      refine Unstarted.trans ?_ (enterAlarm_rests rig _).unstarted
      exact ⟨_, rfl, by simp⟩

theorem Machine.Applies.unstarted {m : Machine (Watched H) capacity}
    {r : Except LineError Unit × Machine (Watched H) capacity} (applies : Applies rig m r) :
    Unstarted m r.2 := by
  cases applies with
  | nothing => exact Unstarted.refl m
  | refused => exact ⟨_, rfl, by simp⟩
  | taken => exact ⟨_, rfl, by simp⟩

theorem Machine.Wakes.unstarted {m : Machine (Watched H) capacity}
    {r : Except LineError Unit × Machine (Watched H) capacity} (wakes : Wakes rig m r)
    (other : m.runState ≠ .cycle) : Unstarted m r.2 := by
  cases wakes with
  | refused => exact ⟨_, rfl, by simp [Rig.energizing]⟩
  | started cycle => exact absurd cycle other
  | energized => exact ⟨_, rfl, by simp [Rig.energizing]⟩

theorem Machine.Inits.unstarted {m : Machine (Watched H) capacity}
    {r : Except LineError Unit × Machine (Watched H) capacity} (inits : Inits rig m r)
    (other : m.runState ≠ .cycle) : Unstarted m r.2 := by
  cases inits with
  | refused => exact ⟨_, rfl, by simp⟩
  | unwoken => exact ⟨_, rfl, by simp [Rig.energizing]⟩
  | started cycle => exact absurd cycle other
  | rested _ rests =>
      refine Unstarted.trans ?_ rests.unstarted
      exact ⟨_, rfl, by simp [Rig.energizing]⟩

section Calls

variable (rig) (m : Machine (Watched H) capacity)

theorem unstarted_executes {m' : Machine (Watched H) capacity}
    (executes : Executes rig.watched m m') : Unstarted m m' := by
  cases executes with
  | advances loads => exact .of_journal (congrArg Watched.journal loads.hardware_advance)
  | holds => exact (finishHold_rests rig m).unstarted
  | runsDry =>
      obtain ⟨_, rests, _⟩ := (finishes rig m).rests
      exact rests.unstarted
  | orphaned => exact (Unstarted.of_journal rfl).trans (enterAlarm_rests rig _).unstarted

theorem unstarted_tick : Unstarted m (m.tick rig.watched) := by
  rcases tick_cases rig.watched m with ⟨_, same⟩ | ⟨cause, m₀, refused, same⟩ | ⟨m₀, taken, executes⟩
  · rw [same]
    exact Unstarted.refl m
  · rw [same]
    exact (applies refused).unstarted.trans (enterAlarm_rests rig m₀).unstarted
  · have begun : Unstarted m (m₀.setBusy true) := (applies taken).unstarted.trans (.of_journal rfl)
    exact begun.trans (unstarted_executes rig _ executes)

end Calls

section Alarmed

variable {m m' : Machine (Watched H) capacity} {op : Operation} {reply : Reply}

theorem runState_perform_alarmed (alarm : m.runState = .alarm) (other : op ≠ .acknowledge)
    (performed : m.perform rig.watched op = .ok (reply, m')) : m'.runState = .alarm := by
  by_cases only : op.onlyStops = true
  · rcases stops_or_rests only performed with same | stopped
    · exact same.runState.trans alarm
    · rcases stopped.runState with same | alarmed | ⟨cycle, _⟩
      · exact same.trans alarm
      · exact alarmed
      · rw [alarm] at cycle
        contradiction
  · cases performs performed with
    | wakeUp => exact (runState_wakeUp rig.watched m).trans alarm
    | cycleStart => simp [cycleStart, alarm]
    | queue idle => simp [alarm] at idle
    | queueUnheeded => exact alarm
    | feedHold cycle => simp [alarm] at cycle
    | feedHoldUnheeded => exact alarm
    | acknowledge => exact absurd rfl other
    | _ => exact absurd rfl only

theorem unstarted_perform_alarmed (alarm : m.runState = .alarm)
    (performed : m.perform rig.watched op = .ok (reply, m')) : Unstarted m m' := by
  have resting : m.runState ≠ .cycle := by
    rw [alarm]
    exact RunState.noConfusion
  cases performs performed with
  | init => exact (inits rig m).unstarted resting
  | wakeUp => exact (wakes rig m).unstarted resting
  | goIdle => exact (goIdle_rests rig m).unstarted
  | alarm => exact (alarm_rests rig m).unstarted
  | tick => exact unstarted_tick rig m
  | pulseReset => exact (endsPulse rig m).unstarted
  | cycleStart =>
      simp only [cycleStart, alarm]
      exact Unstarted.refl m
  | _ => exact .of_journal rfl

theorem run_alarmed {ops : List Operation} {replies : List Reply} (alarm : m.runState = .alarm)
    (unacknowledged : Operation.acknowledge ∉ ops)
    (ran : m.run rig.watched ops = .ok (replies, m')) :
    m'.runState = .alarm ∧ Unstarted m m' := by
  refine run_preserves (fun next => next.runState = .alarm ∧ Unstarted m next) ?_
    ⟨alarm, Unstarted.refl m⟩ ran
  intro op member now next reply kept performed
  obtain ⟨alarm', unstarted⟩ := kept
  have other : op ≠ .acknowledge := ne_of_mem_of_not_mem member unacknowledged
  exact ⟨runState_perform_alarmed alarm' other performed,
    unstarted.trans (unstarted_perform_alarmed alarm' performed)⟩

end Alarmed

/-- The ticks have stopped, and they stay so until the operator acknowledges. -/
structure Latched (rig : Rig H) (m : Machine (Watched H) capacity) : Prop where
  silent : m.ticking = false
  held : ∀ {ops : List Operation} {replies : List Reply} {m' : Machine (Watched H) capacity},
    Operation.acknowledge ∉ ops → m.run rig.watched ops = .ok (replies, m') →
    m'.runState = .alarm ∧ m'.ticking = false ∧ Unstarted m m'

/-- However the machine came into its alarm, whatever is asked of it then and whatever is refused:
unless it is acknowledged it stays in its alarm, and its ticks are not started. -/
theorem alarm_latched (rig : Rig H) (hardware : H) {q : BlockQueue capacity}
    {m : Machine (Watched H) capacity}
    (reached : Reaches rig.watched (Machine.fresh { hardware := hardware } q) m)
    (alarm : m.runState = .alarm) : Latched rig m := by
  have silent : m.ticking = false := by
    obtain ⟨loose, ran⟩ := reached.recorded adrift false
    have governed := (Governed.fresh hardware q).run ran
    cases ticking : m.ticking with
    | false => rfl
    | true => exact absurd alarm (governed.unalarmed ticking)
  constructor
  · exact silent
  · intro ops replies m' unacknowledged ran
    obtain ⟨stays, unstarted⟩ := run_alarmed alarm unacknowledged ran
    exact ⟨stays, unstarted.silent silent, unstarted⟩

def jammedRig : Rig Unit :=
  { sampleRig with
    port :=
      { sampleRig.port with
        writeOutput := fun _ h => (.error .step, h)
        writeDisable := fun level h =>
          (if level = sampleRig.settings.enableLevel then .ok () else .error .disable, h) } }

theorem latched_with_drivers_on :
    ∃ m : Machine (Watched Unit) 4,
      Reaches jammedRig.watched sampleStart m ∧ m.runState = .alarm ∧
      m.journal.disableLevel = some jammedRig.settings.enableLevel ∧ Latched jammedRig m := by
  obtain ⟨m, _, ran, shown⟩ := exists_unrestricted jammedRig.watched unrecorded sampleStart ()
    [.pushBlock .sample, .queue, .cycleStart, .prepareSegments, .tick, .tick]
    (fun r => r.1.runState == .alarm &&
      r.1.journal.disableLevel == some jammedRig.settings.enableLevel) (by decide +kernel)
  obtain ⟨alarm, energized⟩ := Bool.and_eq_true_iff.mp shown
  have alarm : m.runState = .alarm := eq_of_beq alarm
  exact ⟨m, ran, alarm, eq_of_beq energized, alarm_latched jammedRig () ran alarm⟩

end StepPulse
