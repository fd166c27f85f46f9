import StepPulse.Proofs.Machine.Travel
import StepPulse.Proofs.Machine.Ticking

/-! The tick source, the drivers and the run state, and who switches them. -/

namespace StepPulse

open Machine

variable {H : Type} {capacity : Nat} {rig : Rig H}

def Operation.onlyStops : Operation → Bool
  | .wakeUp => false
  | .queue => false
  | .cycleStart => false
  | .feedHold => false
  | .acknowledge => false
  | _ => true

structure Unswitched (m m' : Machine (Watched H) capacity) : Prop where
  ticking : m'.ticking = m.ticking
  disableLevel : m'.journal.disableLevel = m.journal.disableLevel
  runState : m'.runState = m.runState

namespace Unswitched

variable {m m' m'' : Machine (Watched H) capacity}

protected theorem refl (m : Machine (Watched H) capacity) : Unswitched m m := ⟨rfl, rfl, rfl⟩

protected theorem trans (first : Unswitched m m') (second : Unswitched m' m'') : Unswitched m m'' :=
  { ticking := second.ticking.trans first.ticking
    disableLevel := second.disableLevel.trans first.disableLevel
    runState := second.runState.trans first.runState }

end Unswitched

structure Stopped (m m' : Machine (Watched H) capacity) : Prop where
  silent : m'.ticking = false
  runState : m'.runState = m.runState ∨ m'.runState = .alarm ∨
    m.runState = .cycle ∧ m'.runState = .idle

theorem Stopped.after {m m' m'' : Machine (Watched H) capacity} (stopped : Stopped m' m'')
    (first : Unswitched m m') : Stopped m m'' := by
  refine ⟨stopped.silent, ?_⟩
  rw [← first.runState]
  exact stopped.runState

theorem Machine.Rests.stopped {m m₀ m' : Machine (Watched H) capacity} {runState : RunState}
    {cycleStop : Bool} (rests : Rests rig m₀ runState cycleStop m')
    (left : runState = m.runState ∨ runState = .alarm ∨ m.runState = .cycle ∧ runState = .idle) :
    Stopped m m' := by
  refine ⟨rests.ticking, ?_⟩
  rw [rests.runState]
  exact left

theorem Machine.Finishes.stopped {m m' : Machine (Watched H) capacity}
    (finishes : Finishes rig m m') : Stopped m m' := by
  obtain ⟨runState, rests, alarm | ended⟩ := finishes.rests
  · exact rests.stopped (Or.inr (Or.inl alarm))
  · by_cases cycle : m.runState = .cycle
    · exact rests.stopped (Or.inr (Or.inr ⟨cycle, ended.trans (if_pos cycle)⟩))
    · exact rests.stopped (Or.inl (ended.trans (if_neg cycle)))

theorem Machine.Applies.unswitched {m : Machine (Watched H) capacity}
    {r : Except LineError Unit × Machine (Watched H) capacity} (applies : Applies rig m r) :
    Unswitched m r.2 := by
  cases applies with
  | nothing => exact Unswitched.refl m
  | refused => exact ⟨rfl, rfl, rfl⟩
  | taken => exact ⟨rfl, rfl, rfl⟩

section Calls

variable (rig) (m : Machine (Watched H) capacity)

theorem tick_switches : Unswitched m (m.tick rig.watched) ∨ Stopped m (m.tick rig.watched) := by
  rcases tick_cases rig.watched m with ⟨_, same⟩ | ⟨cause, m₀, refused, same⟩ | ⟨m₀, taken, executes⟩
  · rw [same]
    exact Or.inl (Unswitched.refl m)
  · rw [same]
    exact Or.inr ((enterAlarm_rests rig m₀).stopped (Or.inr (Or.inl rfl)))
  · have busy : Unswitched m (m₀.setBusy true) := (applies taken).unswitched.trans ⟨rfl, rfl, rfl⟩
    generalize m.tick rig.watched = m' at executes
    cases executes with
    | advances loads =>
        refine Or.inl (busy.trans ⟨?_, ?_, loads.runState_advance⟩)
        · rw [ticking, ticking, journal, journal, loads.hardware_advance]
        · rw [journal, journal, loads.hardware_advance]
    | holds => exact Or.inr ((finishHold_rests rig _).stopped (Or.inl busy.runState))
    | runsDry => exact Or.inr ((finishes rig _).stopped.after busy)
    | orphaned => exact Or.inr ((enterAlarm_rests rig _).stopped (Or.inr (Or.inl rfl)))

end Calls

theorem Machine.EndsPulse.switches {m m' : Machine (Watched H) capacity}
    (ends : EndsPulse rig m m') : Unswitched m m' ∨ Stopped m m' := by
  cases ends with
  | taken => exact Or.inl ⟨rfl, rfl, rfl⟩
  | refused => exact Or.inr ⟨rfl, Or.inr (Or.inl rfl)⟩

theorem Machine.Inits.switches {m : Machine (Watched H) capacity}
    {r : Except LineError Unit × Machine (Watched H) capacity} (inits : Inits rig m r) :
    Unswitched m r.2 ∨ Stopped m r.2 := by
  cases inits with
  | refused => exact Or.inl ⟨rfl, rfl, rfl⟩
  | unwoken => exact Or.inl ⟨rfl, rfl, rfl⟩
  | started _ rests => exact Or.inr (rests.stopped (Or.inl rfl))
  | rested _ rests => exact Or.inr (rests.stopped (Or.inl rfl))

theorem stops_or_rests {m m' : Machine (Watched H) capacity} {op : Operation} {reply : Reply}
    (only : op.onlyStops = true) (performed : m.perform rig.watched op = .ok (reply, m')) :
    Unswitched m m' ∨ Stopped m m' := by
  cases performs performed with
  | init => exact (inits rig m).switches
  | goIdle => exact Or.inr ((goIdle_rests rig m).stopped (Or.inl rfl))
  | alarm => exact Or.inr ((alarm_rests rig m).stopped (Or.inr (Or.inl rfl)))
  | tick => exact tick_switches rig m
  | pulseReset => exact (endsPulse rig m).switches
  | wakeUp => contradiction
  | queue => contradiction
  | queueUnheeded => contradiction
  | cycleStart => contradiction
  | feedHold => contradiction
  | feedHoldUnheeded => contradiction
  | acknowledge => contradiction
  | _ => exact Or.inl ⟨rfl, rfl, rfl⟩

/-- Whether the ticks have last been resumed out of a hold with the drivers not energized, and the
drivers have not come on since. -/
def Machine.resumedDark (rig : Rig H) : Recorder (Watched H) capacity Bool := fun m op _ dark =>
  match op with
  | .wakeUp => dark && !(m.wakeUp rig.watched).1.isOk
  | .cycleStart =>
    match m.runState with
    | .queued => dark && !(m.cycleStart rig.watched).1.isOk
    | .hold => m.journal.disableLevel != some rig.settings.enableLevel
    | _ => dark
  | _ => dark

theorem Machine.resumedDark_of_onlyStops {m m' : Machine (Watched H) capacity} {op : Operation}
    {dark : Bool} (only : op.onlyStops = true) : resumedDark rig m op m' dark = dark := by
  cases op <;> first | rfl | contradiction

structure Energized (rig : Rig H) (m : Machine (Watched H) capacity) (dark : Bool) : Prop where
  level_iff : m.ticking = true →
    (m.journal.disableLevel = some rig.settings.enableLevel ↔ dark = false)

namespace Energized

variable {m m' : Machine (Watched H) capacity} {dark : Bool}

theorem of_silent (silent : m.ticking = false) : Energized rig m dark := by
  constructor
  rw [silent]
  exact nofun

theorem of_level (level : m.journal.disableLevel = some rig.settings.enableLevel) :
    Energized rig m false := ⟨fun _ => iff_of_true level rfl⟩

theorem congr (energized : Energized rig m dark) (ticking : m'.ticking = m.ticking)
    (level : m'.journal.disableLevel = m.journal.disableLevel) : Energized rig m' dark := by
  constructor
  rw [ticking, level]
  exact energized.level_iff

theorem wakeUp {r : Except LineError Unit × Machine (Watched H) capacity}
    (energized : Energized rig m dark) (wakes : Wakes rig m r) :
    Energized rig r.2 (dark && !r.1.isOk) := by
  cases wakes with
  | refused =>
      show Energized rig _ (dark && true)
      rw [Bool.and_true]
      exact energized.congr rfl rfl
  | started =>
      show Energized rig _ (dark && false)
      rw [Bool.and_false]
      exact of_level rfl
  | energized =>
      show Energized rig _ (dark && false)
      rw [Bool.and_false]
      exact of_level rfl

theorem cycleStart (energized : Energized rig m dark) :
    Energized rig (m.cycleStart rig.watched).2
      (resumedDark rig m .cycleStart (m.cycleStart rig.watched).2 dark) := by
  rw [resumedDark]
  have starts := starts rig m
  generalize m.cycleStart rig.watched = r at starts ⊢
  cases starts with
  | woken queued wakes =>
      rw [queued]
      have cycling : Energized rig { m with runState := .cycle } dark := energized.congr rfl rfl
      exact cycling.wakeUp wakes
  | resumed hold =>
      rw [hold]
      refine ⟨fun _ => ?_⟩
      show m.journal.disableLevel = _ ↔ (m.journal.disableLevel != _) = false
      rw [bne_eq_false_iff_eq]
  | unheeded queued hold =>
      split
      · next state => exact absurd state queued
      · next state => exact absurd state hold
      · exact energized

theorem perform {op : Operation} {reply : Reply} (energized : Energized rig m dark)
    (performed : m.perform rig.watched op = .ok (reply, m')) :
    Energized rig m' (resumedDark rig m op m' dark) := by
  by_cases only : op.onlyStops = true
  · rw [resumedDark_of_onlyStops only]
    rcases stops_or_rests only performed with same | stopped
    · exact energized.congr same.ticking same.disableLevel
    · exact of_silent stopped.silent
  · cases performs performed with
    | wakeUp => exact energized.wakeUp (wakes rig m)
    | cycleStart => exact energized.cycleStart
    | queue => exact energized.congr rfl rfl
    | queueUnheeded => exact energized
    | feedHold => exact energized.congr rfl rfl
    | feedHoldUnheeded => exact energized
    | acknowledge => exact energized.congr rfl rfl
    | _ => exact absurd rfl only

theorem run {start : Machine (Watched H) capacity} {blank : Bool}
    (initially : Energized rig start blank)
    (ran : Run rig.watched unrestricted (resumedDark rig) start blank m dark) :
    Energized rig m dark := by
  induction ran with
  | start => exact initially
  | step _ _ performed ih => exact ih.perform performed

end Energized

/-- In any order of operations and with any refusals: while ticks arrive, the level that was last
written to the disable line is the one that energizes the drivers, save where the ticks were resumed
out of a hold with the drivers not energized, and the drivers have not come on since. -/
theorem energized_while_ticking (rig : Rig H) (hardware : H) {q : BlockQueue capacity}
    {m : Machine (Watched H) capacity} {dark : Bool}
    (ran : Run rig.watched unrestricted (resumedDark rig)
      (Machine.fresh { hardware := hardware } q) false m dark)
    (ticking : m.ticking = true) :
    m.journal.disableLevel = some rig.settings.enableLevel ↔ dark = false :=
  (Energized.run (Energized.of_silent rfl) ran).level_iff ticking

def heldRun : List Operation :=
  [.pushBlock .sample, .prepareSegments, .queue, .cycleStart, .tick, .tick, .feedHold, .tick, .tick]

theorem energized_after_resumption :
    ∃ m : Machine (Watched Unit) 4,
      Run sampleRig.watched unrestricted (resumedDark sampleRig)
        sampleStart false m false ∧
      m.ticking = true ∧ m.journal.disableLevel = some sampleRig.settings.enableLevel := by
  obtain ⟨m, dark, ran, shown⟩ := exists_unrestricted sampleRig.watched (resumedDark sampleRig)
    sampleStart false (heldRun ++ [.cycleStart]) (fun r => r.1.ticking && r.2 == false)
    (by decide +kernel)
  obtain ⟨ticking, lit⟩ := Bool.and_eq_true_iff.mp shown
  obtain rfl : dark = false := eq_of_beq lit
  exact ⟨m, ran, ticking, (energized_while_ticking sampleRig () ran ticking).mpr rfl⟩

/-- Nothing is refused, and yet the next step is made with the drivers released: they were when the
hold was resumed. -/
theorem resumed_with_drivers_released :
    ∃ m : Machine (Watched Unit) 4,
      Run sampleRig.watched unrestricted (resumedDark sampleRig)
        sampleStart false m true ∧
      m.journal.Clean ∧ m.ticking = true ∧
      m.journal.disableLevel ≠ some sampleRig.settings.enableLevel ∧
      (m.tick sampleRig.watched).position ≠ m.position := by
  obtain ⟨m, dark, ran, shown⟩ := exists_unrestricted sampleRig.watched (resumedDark sampleRig)
    sampleStart false (heldRun ++ [.goIdle, .cycleStart])
    (fun r => r.2 && (r.1.journal.all (fun entry => entry.refusal == none) &&
      (r.1.ticking && (r.1.journal.disableLevel != some sampleRig.settings.enableLevel &&
        (r.1.tick sampleRig.watched).position != r.1.position)))) (by decide +kernel)
  simp only [Bool.and_eq_true, beq_iff_eq, bne_iff_ne, List.all_eq_true] at shown
  obtain ⟨rfl, clean, ticking, released, moved⟩ := shown
  exact ⟨m, ran, clean, ticking, released, moved⟩

/-- Whether the machine was last acknowledged while ticks arrived, and no cycle has begun since. -/
def Machine.adrift : Recorder (Watched H) capacity Bool := fun m op _ adrift =>
  match op with
  | .acknowledge => m.ticking
  | .cycleStart => adrift && m.runState != .queued
  | _ => adrift

theorem Machine.adrift_of_onlyStops {m m' : Machine (Watched H) capacity} {op : Operation}
    {loose : Bool} (only : op.onlyStops = true) : adrift m op m' loose = loose := by
  cases op <;> first | rfl | contradiction

structure Governed (m : Machine (Watched H) capacity) (loose : Bool) : Prop where
  running : m.ticking = true → loose = false → m.runState = .cycle ∨ m.runState = .hold
  unalarmed : m.ticking = true → m.runState ≠ .alarm
  away : loose = true → m.runState ≠ .cycle ∧ m.runState ≠ .hold

namespace Governed

variable {m m' : Machine (Watched H) capacity} {loose : Bool}

protected theorem fresh (hardware : H) (q : BlockQueue capacity) :
    Governed (Machine.fresh { hardware := hardware } q) false :=
  { running := nofun, unalarmed := nofun, away := nofun }

theorem congr (governed : Governed m loose) (ticking : m'.ticking = m.ticking)
    (runState : m'.runState = m.runState) : Governed m' loose := by
  refine { running := ?_, unalarmed := ?_, away := ?_ }
  · rw [ticking, runState]
    exact governed.running
  · rw [ticking, runState]
    exact governed.unalarmed
  · rw [runState]
    exact governed.away

theorem stopped (governed : Governed m loose) (stopped : Stopped m m') : Governed m' loose := by
  have silent := stopped.silent
  refine { running := ?_, unalarmed := ?_, away := fun adrift => ?_ }
  · rw [silent]
    exact nofun
  · rw [silent]
    exact nofun
  · have away := governed.away adrift
    rcases stopped.runState with same | alarm | ⟨cycle, _⟩
    · rwa [same]
    · rw [alarm]
      exact ⟨nofun, nofun⟩
    · exact absurd cycle away.1

theorem of_cycle (cycle : m.runState = .cycle) : Governed m false := by
  refine { running := fun _ _ => Or.inl cycle, unalarmed := fun _ => ?_, away := nofun }
  rw [cycle]
  exact nofun

theorem wakeUp {r : Except LineError Unit × Machine (Watched H) capacity}
    (governed : Governed m loose) (wakes : Wakes rig m r) : Governed r.2 loose := by
  cases wakes with
  | refused => exact governed.congr rfl rfl
  | started cycle =>
      cases loose with
      | true => exact absurd cycle (governed.away rfl).1
      | false => exact of_cycle cycle
  | energized => exact governed.congr rfl rfl

theorem cycleStart (governed : Governed m loose) :
    Governed (m.cycleStart rig.watched).2 (loose && m.runState != .queued) := by
  have starts := starts rig m
  generalize m.cycleStart rig.watched = r at starts
  cases starts with
  | woken queued wakes =>
      rw [queued]
      show Governed _ (loose && false)
      rw [Bool.and_false]
      exact of_cycle wakes.runState
  | resumed hold =>
      cases loose with
      | true => exact absurd hold (governed.away rfl).2
      | false => exact of_cycle rfl
  | unheeded queued hold =>
      rw [bne_iff_ne.mpr queued, Bool.and_true]
      exact governed

theorem queue (governed : Governed m loose) (idle : m.runState = .idle) :
    Governed { m with runState := .queued } loose := by
  refine
    { running := fun ticking lit => ?_
      unalarmed := fun _ => RunState.noConfusion
      away := fun _ => ⟨RunState.noConfusion, RunState.noConfusion⟩ }
  rcases governed.running ticking lit with cycle | hold
  · rw [idle] at cycle
    contradiction
  · rw [idle] at hold
    contradiction

theorem feedHold (governed : Governed m loose) (cycle : m.runState = .cycle) :
    Governed { m with runState := .hold } loose := by
  refine
    { running := fun _ _ => Or.inr rfl
      unalarmed := fun _ => RunState.noConfusion
      away := fun adrift => ?_ }
  exact absurd cycle (governed.away adrift).1

theorem acknowledge (m : Machine (Watched H) capacity) : Governed m.acknowledge m.ticking := by
  refine { running := fun ticking lit => ?_, unalarmed := nofun, away := fun _ => ⟨nofun, nofun⟩ }
  have silent : m.acknowledge.ticking = false := lit
  rw [silent] at ticking
  contradiction

theorem perform {op : Operation} {reply : Reply} (governed : Governed m loose)
    (performed : m.perform rig.watched op = .ok (reply, m')) :
    Governed m' (adrift m op m' loose) := by
  by_cases only : op.onlyStops = true
  · rw [adrift_of_onlyStops only]
    rcases stops_or_rests only performed with same | stopped
    · exact governed.congr same.ticking same.runState
    · exact governed.stopped stopped
  · cases performs performed with
    | wakeUp => exact governed.wakeUp (wakes rig m)
    | cycleStart => exact governed.cycleStart
    | queue idle => exact governed.queue idle
    | queueUnheeded => exact governed
    | feedHold cycle => exact governed.feedHold cycle
    | feedHoldUnheeded => exact governed
    | acknowledge => exact acknowledge m
    | _ => exact absurd rfl only

theorem run {start : Machine (Watched H) capacity} {blank : Bool} (initially : Governed start blank)
    (ran : Run rig.watched unrestricted adrift start blank m loose) : Governed m loose := by
  induction ran with
  | start => exact initially
  | step _ _ performed ih => exact ih.perform performed

end Governed

/-- In any order of operations and with any refusals: while ticks arrive there is no alarm, and the
run state is a cycle or a hold, save where the machine was acknowledged while ticks arrived and no
cycle has begun since. -/
theorem governed_while_ticking (rig : Rig H) (hardware : H) {q : BlockQueue capacity}
    {m : Machine (Watched H) capacity} {loose : Bool}
    (ran : Run rig.watched unrestricted adrift (Machine.fresh { hardware := hardware } q) false
      m loose)
    (ticking : m.ticking = true) :
    m.runState ≠ .alarm ∧ (m.runState = .cycle ∨ m.runState = .hold ↔ loose = false) := by
  have governed := (Governed.fresh hardware q).run ran
  refine ⟨governed.unalarmed ticking, fun running => ?_, governed.running ticking⟩
  cases loose with
  | false => rfl
  | true =>
      have away := governed.away rfl
      exact absurd running (not_or.mpr away)

theorem governed_after_resumption :
    ∃ m : Machine (Watched Unit) 4,
      Run sampleRig.watched unrestricted adrift sampleStart false m false ∧
      m.ticking = true ∧ (m.runState = .cycle ∨ m.runState = .hold) := by
  obtain ⟨m, loose, ran, shown⟩ := exists_unrestricted sampleRig.watched adrift sampleStart false
    (heldRun ++ [.acknowledge, .queue, .cycleStart, .tick, .feedHold])
    (fun r => r.1.ticking && r.2 == false) (by decide +kernel)
  obtain ⟨ticking, settled⟩ := Bool.and_eq_true_iff.mp shown
  obtain rfl : loose = false := eq_of_beq settled
  exact ⟨m, ran, ticking, (governed_while_ticking sampleRig () ran ticking).2.mpr rfl⟩

/-- Nothing is refused, and yet the next tick makes a step in a machine that is idle: it was
acknowledged while a hold was pending. -/
theorem steps_while_idle :
    ∃ m : Machine (Watched Unit) 4,
      Run sampleRig.watched unrestricted adrift sampleStart false m true ∧
      m.journal.Clean ∧ m.ticking = true ∧ m.runState = .idle ∧
      (m.tick sampleRig.watched).position ≠ m.position := by
  obtain ⟨m, loose, ran, shown⟩ := exists_unrestricted sampleRig.watched adrift sampleStart false
    [.pushBlock .sample, .prepareSegments, .queue, .cycleStart, .tick, .tick, .feedHold,
      .acknowledge]
    (fun r => r.2 && (r.1.journal.all (fun entry => entry.refusal == none) &&
      (r.1.ticking && (r.1.runState == .idle &&
        (r.1.tick sampleRig.watched).position != r.1.position)))) (by decide +kernel)
  simp only [Bool.and_eq_true, beq_iff_eq, bne_iff_ne, List.all_eq_true] at shown
  obtain ⟨rfl, clean, ticking, idle, moved⟩ := shown
  exact ⟨m, ran, clean, ticking, idle, moved⟩

end StepPulse
