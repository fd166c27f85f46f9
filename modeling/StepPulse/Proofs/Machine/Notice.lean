import StepPulse.Proofs.Machine.Supply

/-! A machine that stops its tick source by itself leaves a notice. -/

namespace StepPulse

open Machine

variable {H : Type} {capacity : Nat} {rig : Rig H}

def Journal.stops : Journal → Nat
  | [] => 0
  | ⟨.stopTicks, _⟩ :: earlier => stops earlier + 1
  | _ :: earlier => stops earlier

/-- Whether a callback has stopped the tick source since the notice was last taken. -/
def Machine.stoppedItself : Recorder (Watched H) capacity Bool := fun m op m' stopped =>
  match op with
  | .takeCycleStop => false
  | .tick => stopped || m.journal.stops < m'.journal.stops
  | .pulseReset => stopped || m.journal.stops < m'.journal.stops
  | _ => stopped

/-- Where a tick leaves a machine that it stops. -/
inductive Halt (m m' : Machine (Watched H) capacity) : Prop
  | held : m.runtime.load ≠ .nothing → m.runState = .hold → m'.runState = .hold → Halt m m'
  | dry :
      m.pipeline.segments.toList = [] → m'.pipeline.segments.toList = [] →
      m'.runState = (if m.runState = .cycle then .idle else m.runState) → Halt m m'
  | alarmed : m'.runState = .alarm → Halt m m'

structure Unhalted (m m' : Machine (Watched H) capacity) : Prop where
  stops : m'.journal.stops = m.journal.stops
  cycleStop : m'.cycleStop = m.cycleStop

structure Halted (m m' : Machine (Watched H) capacity) : Prop where
  stops : m.journal.stops < m'.journal.stops
  cycleStop : m'.cycleStop = true

namespace Unhalted

variable {m m' m'' : Machine (Watched H) capacity}

protected theorem refl (m : Machine (Watched H) capacity) : Unhalted m m := ⟨rfl, rfl⟩

protected theorem trans (first : Unhalted m m') (second : Unhalted m' m'') : Unhalted m m'' :=
  { stops := second.stops.trans first.stops
    cycleStop := second.cycleStop.trans first.cycleStop }

end Unhalted

namespace Halted

variable {m m' m'' : Machine (Watched H) capacity}

theorem after (halted : Halted m' m'') (first : Unhalted m m') : Halted m m'' := by
  have later := halted.stops
  rw [first.stops] at later
  exact ⟨later, halted.cycleStop⟩

end Halted

theorem Machine.Halting.stops_lt {calls : Journal} (halting : Halting rig calls)
    (journal : Journal) : journal.stops < (calls ++ journal : Journal).stops := by
  cases halting with
  | stop => exact Nat.lt_succ_self journal.stops
  | idle => exact Nat.lt_succ_self journal.stops
  | alarm => exact Nat.lt_succ_self journal.stops
  | idleAlarm => exact Nat.lt_add_of_pos_right (Nat.succ_pos 1)

theorem Machine.Rests.halted {m m' : Machine (Watched H) capacity} {runState : RunState}
    (rests : Rests rig m runState true m') : Halted m m' := by
  cases rests with
  | after halting => exact ⟨halting.stops_lt m.journal, rfl⟩

theorem Machine.Applies.unhalted {m : Machine (Watched H) capacity}
    {r : Except LineError Unit × Machine (Watched H) capacity} (applies : Applies rig m r) :
    Unhalted m r.2 := by
  cases applies <;> exact ⟨rfl, rfl⟩

theorem Machine.EndsPulse.halts {m m' : Machine (Watched H) capacity} (ends : EndsPulse rig m m') :
    Unhalted m m' ∨ Halted m m' ∧ m'.runState = .alarm := by
  cases ends with
  | taken => exact Or.inl ⟨rfl, rfl⟩
  | refused => exact Or.inr ⟨(enterAlarm_rests rig _).halted.after ⟨rfl, rfl⟩, rfl⟩

section Kept

variable {m : Machine (Watched H) capacity} {r : Except LineError Unit × Machine (Watched H) capacity}

theorem Machine.Wakes.cycleStop (wakes : Wakes rig m r) : r.2.cycleStop = m.cycleStop := by
  cases wakes <;> rfl

theorem Machine.Starts.cycleStop (starts : Starts rig m r) : r.2.cycleStop = m.cycleStop := by
  cases starts with
  | woken _ wakes => exact wakes.cycleStop
  | resumed => rfl
  | unheeded => rfl

theorem Machine.Inits.cycleStop (inits : Inits rig m r) : r.2.cycleStop = m.cycleStop := by
  cases inits with
  | refused => rfl
  | unwoken => rfl
  | started _ rests => exact rests.cycleStop
  | rested _ rests => exact rests.cycleStop

end Kept

section Tick

variable {m m' : Machine (Watched H) capacity}

theorem unhalted_advance (rig : Rig H) (m : Machine (Watched H) capacity) (loadsBlock : Bool) :
    Unhalted m (advance rig.watched m loadsBlock) := by
  have advances : Advances rig.watched m loadsBlock _ := Machine.advances rfl
  generalize advance rig.watched m loadsBlock = m' at advances
  cases advances with
  | coasts => exact ⟨rfl, rfl⟩
  | steps => exact ⟨rfl, rfl⟩

theorem Machine.Loads.unhalted {ready : Machine (Watched H) capacity} {loadsBlock : Bool}
    (loads : Loads rig.watched m ready loadsBlock) : Unhalted m ready := by
  cases loads <;> exact ⟨rfl, rfl⟩

theorem execute_halts (rig : Rig H) (ordered : m.pipeline.segments.WellFormed) :
    Unhalted m (execute rig.watched m) ∨
      Halted m (execute rig.watched m) ∧ Halt m (execute rig.watched m) := by
  by_cases loaded : m.runtime.load = .nothing
  · rw [execute_loaded loaded]
    exact Or.inl (unhalted_advance rig m false)
  by_cases hold : m.runState = .hold
  · rw [execute_held loaded hold]
    exact Or.inr ⟨(finishHold_rests rig m).halted, .held loaded hold hold⟩
  have executes : Executes rig.watched m _ := executes rfl
  generalize execute rig.watched m = m' at executes
  cases executes with
  | @advances ready loadsBlock loads =>
      exact Or.inl (loads.unhalted.trans (unhalted_advance rig ready loadsBlock))
  | holds held => exact absurd held hold
  | @orphaned s =>
      have alarmed := (enterAlarm_rests rig (loadSegment m s)).halted
      exact Or.inr ⟨alarmed.after ⟨rfl, rfl⟩, .alarmed rfl⟩
  | runsDry _ _ empty =>
      have drained : m.pipeline.segments.toList = [] := by
        rwa [SegmentRing.peek?_eq_head? ordered, List.head?_eq_none_iff] at empty
      have kept := (still_finishCycle rig.watched m).pipeline
      obtain ⟨_, rests, alarm | ended⟩ := (finishes rig m).rests
      · exact Or.inr ⟨rests.halted, .alarmed (rests.runState.trans alarm)⟩
      · refine Or.inr ⟨rests.halted, .dry drained ?_ (rests.runState.trans ended)⟩
        rw [kept]
        exact drained

theorem Halt.after {m₀ : Machine (Watched H) capacity} (halt : Halt m₀ m') (still : Still m m₀)
    (runState : m₀.runState = m.runState) : Halt m m' := by
  cases halt with
  | held due hold held =>
      rw [still.load] at due
      exact .held due (runState.symm.trans hold) held
  | dry before empty ended =>
      rw [still.pipeline] at before
      rw [runState] at ended
      exact .dry before empty ended
  | alarmed alarm => exact .alarmed alarm

theorem tick_halts (rig : Rig H) (ordered : m.pipeline.segments.WellFormed) :
    Unhalted m (m.tick rig.watched) ∨
      Halted m (m.tick rig.watched) ∧ Halt m (m.tick rig.watched) := by
  have runState := runState_applyStaged rig.watched m
  cases busy : m.runtime.busy with
  | true =>
      rw [tick_busy busy]
      exact Or.inl (Unhalted.refl m)
  | false =>
      rcases tick_acts rig.watched busy with ⟨cause, m₀, refused, same⟩ | ⟨m₀, taken, same⟩
      · rw [same]
        have alarmed := (enterAlarm_rests rig m₀).halted
        exact Or.inr ⟨alarmed.after (applies refused).unhalted, .alarmed rfl⟩
      · rw [taken] at runState
        rw [same]
        have begun : Unhalted m (m₀.setBusy true) := (applies taken).unhalted.trans ⟨rfl, rfl⟩
        have guarded := still_begun taken
        have ordered₀ : (m₀.setBusy true).pipeline.segments.WellFormed := by
          rwa [guarded.pipeline]
        rcases execute_halts rig ordered₀ with unhalted | ⟨halted, halt⟩
        · exact Or.inl (begun.trans unhalted)
        · exact Or.inr ⟨halted.after begun, halt.after guarded runState⟩

end Tick

section Ordered

variable {rig : Rig H} {m m' : Machine H capacity}

theorem ordered_stepEvent (rig : Rig H) (ordered : m.pipeline.segments.WellFormed) :
    (stepEvent rig m).pipeline.segments.WellFormed := by
  have released : ({ m.pipeline with segments := m.pipeline.segments.advance } : Pipeline)
      |>.segments.WellFormed := ordered.advance
  cases completion rig m with
  | within _ _ pipeline => rwa [pipeline]
  | segment _ _ _ pipeline => rwa [pipeline]
  | block _ _ _ pipeline => rwa [pipeline]

theorem Ticks.ordered (ticks : Ticks rig m m') (ordered : m.pipeline.segments.WellFormed) :
    m'.pipeline.segments.WellFormed := by
  cases ticks with
  | still still => rwa [still.pipeline]
  | orphaned still => rwa [(still_enterAlarm rig _).pipeline, loadSegment, still.pipeline]
  | advanced still loads advances =>
      rw [← still.pipeline, ← loads.pipeline] at ordered
      cases advances with
      | coasts => exact ordered
      | steps => exact ordered_stepEvent rig ordered

theorem Effect.ordered (effect : Effect rig m m') (ordered : m.pipeline.segments.WellFormed) :
    m'.pipeline.segments.WellFormed := by
  cases effect with
  | still still => rwa [still.pipeline]
  | asked still => rwa [still.pipeline]
  | restarted still =>
      rw [still.pipeline]
      exact SegmentRing.WellFormed.clear _
  | queued => exact ordered
  | placed axis steps => exact ordered

theorem ordered_perform {op : Operation} {reply : Reply} (ordered : m.pipeline.segments.WellFormed)
    (performed : m.perform rig op = .ok (reply, m')) : m'.pipeline.segments.WellFormed := by
  cases keeps : op.keepsBlocks with
  | true =>
      by_cases other : op = .prepareSegments ∨ op = .tick
      · cases performs performed with
        | prepareSegments filled =>
            exact Pipeline.fill_keeps (fun p => p.segments.WellFormed) Pipeline.wellFormed_slice
              ordered filled
        | tick => exact (Machine.ticks rig m).ordered ordered
        | _ => simp at other
      · have effect := perform_effect keeps (other ∘ Or.inl) (other ∘ Or.inr) performed
        exact effect.ordered ordered
  | false =>
      cases performs performed with
      | discardBlock => exact ordered
      | clearBlocks => exact ordered
      | _ => contradiction

end Ordered

structure Noticed (m : Machine (Watched H) capacity) (stopped : Bool) : Prop where
  ordered : m.pipeline.segments.WellFormed
  cycleStop : m.cycleStop = stopped

namespace Noticed

variable {m m' : Machine (Watched H) capacity} {stopped : Bool} {op : Operation} {reply : Reply}

theorem cycleStop_of_halts (noticed : Noticed m stopped) (halts : Unhalted m m' ∨ Halted m m') :
    m'.cycleStop = (stopped || decide (m.journal.stops < m'.journal.stops)) := by
  rcases halts with unhalted | halted
  · have unmoved : ¬ m.journal.stops < m'.journal.stops := by
      rw [unhalted.stops]
      exact Nat.lt_irrefl _
    rw [unhalted.cycleStop, noticed.cycleStop, decide_eq_false unmoved, Bool.or_false]
  · rw [halted.cycleStop, decide_eq_true halted.stops, Bool.or_true]

theorem perform (noticed : Noticed m stopped)
    (performed : m.perform rig.watched op = .ok (reply, m')) :
    Noticed m' (stoppedItself m op m' stopped) := by
  refine ⟨ordered_perform noticed.ordered performed, ?_⟩
  cases performs performed with
  | tick =>
      apply noticed.cycleStop_of_halts
      rcases tick_halts rig noticed.ordered with unhalted | ⟨halted, _⟩
      · exact Or.inl unhalted
      · exact Or.inr halted
  | pulseReset =>
      apply noticed.cycleStop_of_halts
      exact (endsPulse rig m).halts.imp_right fun halted => halted.1
  | init => exact (inits rig m).cycleStop.trans noticed.cycleStop
  | wakeUp => exact (wakes rig m).cycleStop.trans noticed.cycleStop
  | goIdle => exact (goIdle_rests rig m).cycleStop.trans noticed.cycleStop
  | alarm => exact (alarm_rests rig m).cycleStop.trans noticed.cycleStop
  | cycleStart => exact (starts rig m).cycleStop.trans noticed.cycleStop
  | takeCycleStop => rfl
  | _ => exact noticed.cycleStop

protected theorem fresh (hardware : H) (q : BlockQueue capacity) :
    Noticed (Machine.fresh { hardware := hardware } q) false :=
  ⟨SegmentRing.WellFormed.clear _, rfl⟩

theorem run {start : Machine (Watched H) capacity} {blank : Bool} (initially : Noticed start blank)
    (ran : Run rig.watched unrestricted stoppedItself start blank m stopped) :
    Noticed m stopped := by
  induction ran with
  | start => exact initially
  | step _ _ performed ih => exact ih.perform performed

end Noticed

/-- What a machine that never stops silently tells of its stops. -/
structure Outspoken (rig : Rig H) (m : Machine (Watched H) capacity) (stopped : Bool) : Prop where
  taken : m.perform rig.watched .takeCycleStop =
    .ok (.stopped stopped, { m with cycleStop := false })
  tick : m.journal.stops < (m.tick rig.watched).journal.stops → Halt m (m.tick rig.watched)
  pulseReset : m.journal.stops < (m.onPulseReset rig.watched).journal.stops →
    (m.onPulseReset rig.watched).runState = .alarm

/-- In any order of operations and with any refusals, the notice of a stop is there exactly when a
callback has stopped the tick source since it was last taken. Such a stop is a hold that is reached,
an empty ring or an alarm. -/
theorem never_stops_silently (rig : Rig H) (hardware : H) {q : BlockQueue capacity}
    {m : Machine (Watched H) capacity} {stopped : Bool}
    (ran : Run rig.watched unrestricted stoppedItself (Machine.fresh { hardware := hardware } q)
      false m stopped) :
    Outspoken rig m stopped := by
  have noticed := (Noticed.fresh hardware q).run ran
  constructor
  · rw [← noticed.cycleStop]
    rfl
  · intro stops
    rcases tick_halts rig noticed.ordered with unhalted | ⟨_, halt⟩
    · exact absurd stops (Nat.not_lt.mpr (Nat.le_of_eq unhalted.stops))
    · exact halt
  · intro stops
    rcases (endsPulse rig m).halts with unhalted | ⟨_, alarm⟩
    · exact absurd stops (Nat.not_lt.mpr (Nat.le_of_eq unhalted.stops))
    · exact alarm

theorem stop_noticed_after_reset :
    ∃ m : Machine (Watched Unit) 4,
      Run sampleRig.watched unrestricted stoppedItself sampleStart false m true ∧
      m.runState = .cycle ∧ m.ticking = true ∧ Outspoken sampleRig m true ∧
      m.journal.stops < (m.tick sampleRig.watched).journal.stops := by
  obtain ⟨m, stopped, ran, shown⟩ := exists_unrestricted sampleRig.watched stoppedItself
    sampleStart false
    (heldRun ++ [.acknowledge, .reset, .queue, .cycleStart])
    (fun r => r.2 && (r.1.runState == .cycle && (r.1.ticking &&
      decide (r.1.journal.stops < (r.1.tick sampleRig.watched).journal.stops)))) (by decide +kernel)
  simp only [Bool.and_eq_true, beq_iff_eq, decide_eq_true_eq] at shown
  obtain ⟨rfl, cycle, ticking, stops⟩ := shown
  exact ⟨m, ran, cycle, ticking, never_stops_silently sampleRig () ran, stops⟩

end StepPulse
