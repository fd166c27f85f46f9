import StepPulse.Proofs.Machine.Alarm

/-!
Refusals in the callbacks. A callback has nobody to report to, so it answers every refusal in the
same way, wherever it comes: it gives up what it was about to do and enters the alarm. The alarm's
own write comes last and may be refused like any other. What makes this safe is that a callback
moves the machine on only after its last write, so that there is nothing to take back.
-/

namespace StepPulse

open Machine

variable {H : Type} {capacity : Nat} {rig : Rig H}

abbrev Taken (m m' : Machine (Watched H) capacity) : Prop :=
  CallsOnly (fun entry => entry.refusal = none) m m'

/-- The motion is the same. The staged image may be lost, and the segment at the front of the ring,
which stays there, may have been loaded. -/
structure Unmoved (m m' : Machine H capacity) : Prop where
  planner : m'.planner = m.planner
  pipeline : m'.pipeline = m.pipeline
  position : m'.position = m.position
  counters : m'.runtime.counters = m.runtime.counters
  distance : m'.runtime.distance = m.runtime.distance
  ramp : m'.runtime.ramp = m.runtime.ramp
  load : m'.runtime.load = m.runtime.load
  block : m'.runtime.block = m.runtime.block

theorem Unmoved.trans {m m' m'' : Machine H capacity} (first : Unmoved m m')
    (second : Unmoved m' m'') : Unmoved m m'' :=
  { planner := second.planner.trans first.planner
    pipeline := second.pipeline.trans first.pipeline
    position := second.position.trans first.position
    counters := second.counters.trans first.counters
    distance := second.distance.trans first.distance
    ramp := second.ramp.trans first.ramp
    load := second.load.trans first.load
    block := second.block.trans first.block }

theorem Machine.Still.unmoved {m m' : Machine H capacity} (still : Still m m') : Unmoved m m' :=
  { planner := still.planner
    pipeline := still.pipeline
    position := still.position
    counters := still.counters
    distance := still.distance
    ramp := by rw [still.runtime]
    load := still.load
    block := still.block }

theorem unmoved_loadSegment (m : Machine H capacity) (s : Segment) :
    Unmoved m (loadSegment m s) := ⟨rfl, rfl, rfl, rfl, rfl, rfl, rfl, rfl⟩

inductive Ends (rig : Rig H) (m : Machine (Watched H) capacity) :
    Machine (Watched H) capacity → Prop
  | alarmed {m₁ : Machine (Watched H) capacity} :
      m.journal <:+ m₁.journal → Unmoved m m₁ → Ends rig m (enterAlarm rig.watched m₁)
  | taken {m' : Machine (Watched H) capacity} : Taken m m' → Ends rig m m'

theorem Ends.after {m m₁ m' : Machine (Watched H) capacity} (ends : Ends rig m₁ m')
    (taken : Taken m m₁) (unmoved : Unmoved m m₁) : Ends rig m m' := by
  cases ends with
  | alarmed made same => exact .alarmed (taken.suffix.trans made) (unmoved.trans same)
  | taken later => exact .taken (taken.trans later)

theorem Machine.Idling.taken {m : Machine (Watched H) capacity} {runState : RunState}
    {calls : Journal} (idling : Idling rig runState (.ok ()) calls) (hardware : H) :
    Taken m (m.after calls hardware) := by
  refine ⟨calls, rfl, ?_⟩
  cases idling <;> simp [Rig.releasing, Watched.refusal]

theorem Machine.Finishes.ends {m m' : Machine (Watched H) capacity} (finishes : Finishes rig m m') :
    Ends rig m m' := by
  cases finishes with
  | @ended calls hardware idling =>
      have taken : Taken m (m.after calls hardware) := idling.taken hardware
      exact .taken (taken.trans (.of_journal rfl))
  | alarmed => exact .alarmed ⟨_, rfl⟩ ⟨rfl, rfl, rfl, rfl, rfl, rfl, rfl, rfl⟩

theorem Machine.EndsPulse.ends {m m' : Machine (Watched H) capacity} (ends : EndsPulse rig m m') :
    Ends rig m m' := by
  cases ends with
  | taken => exact .taken (CallsOnly.cons _ rfl rfl)
  | refused => exact .alarmed ⟨_, rfl⟩ ⟨rfl, rfl, rfl, rfl, rfl, rfl, rfl, rfl⟩

theorem Machine.Applies.taken_of_ok {m m₀ : Machine (Watched H) capacity}
    (applies : Applies rig m (.ok (), m₀)) : Taken m m₀ := by
  cases applies with
  | nothing => exact CallsOnly.refl m
  | taken => exact ⟨_, rfl, by simp⟩

section Calls

variable (rig) (m : Machine (Watched H) capacity)

theorem ends_tick : Ends rig m (m.tick rig.watched) := by
  have still := still_applyStaged rig.watched m
  rcases tick_cases rig.watched m with ⟨_, same⟩ | ⟨cause, m₀, refused, same⟩ | ⟨m₀, taken, executes⟩
  · rw [same]
    exact .taken (CallsOnly.refl m)
  · rw [refused] at still
    rw [same]
    exact .alarmed (applies refused).unstarted.suffix still.unmoved
  · have begun : Taken m (m₀.setBusy true) := (applies taken).taken_of_ok.trans (.of_journal rfl)
    have unmoved : Unmoved m (m₀.setBusy true) := (still_begun taken).unmoved
    generalize m.tick rig.watched = m' at executes
    cases executes with
    | advances loads =>
        have journal := congrArg Watched.journal loads.hardware_advance
        exact .taken (begun.trans (.of_journal journal))
    | holds => exact .taken (begun.trans (CallsOnly.cons ⟨.stopTicks, none⟩ rfl rfl))
    | runsDry => exact (finishes rig _).ends.after begun unmoved
    | @orphaned s =>
        exact .alarmed begun.suffix (unmoved.trans (unmoved_loadSegment _ s))

end Calls

theorem Journal.exists_first_refusal {calls : Journal}
    (refused : ∃ entry ∈ calls, entry.refusal ≠ none) :
    ∃ later first earlier, calls = later ++ first :: earlier ∧ first.refusal ≠ none ∧
      Clean earlier := by
  induction calls with
  | nil =>
      obtain ⟨entry, member, _⟩ := refused
      cases member
  | cons entry calls ih =>
      by_cases before : ∃ entry ∈ calls, entry.refusal ≠ none
      · obtain ⟨later, first, earlier, rfl, cause, clean⟩ := ih before
        exact ⟨entry :: later, first, earlier, rfl, cause, clean⟩
      · have clean : Clean calls := by
          intro entry' member
          by_contra cause
          exact before ⟨entry', member, cause⟩
        obtain ⟨entry', member, cause⟩ := refused
        rcases List.mem_cons.mp member with rfl | member
        · exact ⟨[], entry', calls, rfl, cause, clean⟩
        · exact absurd (clean entry' member) cause

structure SafeAlarm (rig : Rig H) (m m' : Machine (Watched H) capacity) (calls : Journal) :
    Prop where
  runState : m'.runState = .alarm
  silent : m'.ticking = false
  free : m'.runtime.busy = false
  notified : m'.cycleStop = true
  released : ∃ later first earlier, calls = later ++ first :: earlier ∧ first.refusal ≠ none ∧
    Journal.Clean earlier ∧ ∃ entry ∈ later ++ [first], entry.call = .disable rig.settings.disableLevel
  unmoved : Unmoved m m'

/-- The write of the alarm is the last call of all, so no refusal comes after it. -/
theorem safeAlarm_enterAlarm {m m₁ : Machine (Watched H) capacity} (unmoved : Unmoved m m₁)
    {before : Journal} {refusal : Option LineError}
    (refused : ∃ entry ∈ ⟨.disable rig.settings.disableLevel, refusal⟩ :: before,
      entry.refusal ≠ none) :
    SafeAlarm rig m (enterAlarm rig.watched m₁)
      (⟨.disable rig.settings.disableLevel, refusal⟩ :: before) := by
  obtain ⟨later, first, earlier, split, cause, clean⟩ := Journal.exists_first_refusal refused
  have last : ⟨.disable rig.settings.disableLevel, refusal⟩ ∈ later ++ [first] := by
    cases later with
    | nil => exact List.mem_singleton.mpr (List.cons.inj split).1
    | cons entry later =>
        rw [(List.cons.inj split).1]
        exact List.mem_cons_self
  exact
    { runState := rfl
      silent := rfl
      free := rfl
      notified := rfl
      released := ⟨later, first, earlier, split, cause, clean, _, last, rfl⟩
      unmoved := unmoved.trans (still_enterAlarm rig.watched m₁).unmoved }

theorem Ends.failsSafe {m m' : Machine (Watched H) capacity} (ends : Ends rig m m') :
    ∃ calls, m'.journal = calls ++ m.journal ∧
      ((∃ entry ∈ calls, entry.refusal ≠ none) → SafeAlarm rig m m' calls) := by
  cases ends with
  | @alarmed m₁ made unmoved =>
      obtain ⟨before, same⟩ := made
      obtain ⟨refusal, journal⟩ : ∃ refusal, (enterAlarm rig.watched m₁).journal =
          rig.releasing refusal :: ⟨.stopTicks, none⟩ :: m₁.journal := ⟨_, rfl⟩
      rw [← same] at journal
      exact ⟨_ :: _ :: before, journal, safeAlarm_enterAlarm unmoved⟩
  | taken taken =>
      obtain ⟨calls, journal, all⟩ := taken
      refine ⟨calls, journal, ?_⟩
      rintro ⟨entry, member, cause⟩
      exact absurd (all entry member) cause

/-- Whatever the machine was doing and whichever calls of a tick or of a pulse reset are refused: it
returns, and if any call was refused, it returns in an alarm in which everything has stopped. -/
theorem callbacks_fail_safe (rig : Rig H) (m : Machine (Watched H) capacity) {op : Operation}
    (callback : op = .tick ∨ op = .pulseReset) :
    ∃ m' calls, m.perform rig.watched op = .ok (.done, m') ∧ m'.journal = calls ++ m.journal ∧
      ((∃ entry ∈ calls, entry.refusal ≠ none) → SafeAlarm rig m m' calls) := by
  rcases callback with rfl | rfl
  · obtain ⟨calls, made, safe⟩ := (ends_tick rig m).failsSafe
    exact ⟨m.tick rig.watched, calls, rfl, made, safe⟩
  · obtain ⟨calls, made, safe⟩ := (endsPulse rig m).ends.failsSafe
    exact ⟨m.onPulseReset rig.watched, calls, rfl, made, safe⟩

theorem fails_safe_twice_refused :
    ∃ (m m' : Machine (Watched Unit) 4) (calls : Journal),
      Reaches jammedRig.watched sampleStart m ∧
      m.perform jammedRig.watched .tick = .ok (.done, m') ∧
      (calls.countP fun entry => entry.refusal.isSome) = 2 ∧ SafeAlarm jammedRig m m' calls := by
  obtain ⟨m, _, ran, shown⟩ := exists_unrestricted jammedRig.watched unrecorded sampleStart ()
    [.pushBlock .sample, .queue, .cycleStart, .prepareSegments, .tick]
    (fun r => (r.1.journal.countP fun entry => entry.refusal.isSome) == 0 &&
      ((r.1.tick jammedRig.watched).journal.countP fun entry => entry.refusal.isSome) == 2)
    (by decide +kernel)
  obtain ⟨clean, twice⟩ := Bool.and_eq_true_iff.mp shown
  obtain ⟨m', calls, performed, made, safe⟩ := callbacks_fail_safe jammedRig m (.inl rfl)
  have refusals : (calls.countP fun entry => entry.refusal.isSome) = 2 := by
    obtain ⟨_, same⟩ := Prod.mk.inj (Except.ok.inj performed)
    have counted := eq_of_beq twice
    rw [same, made, List.countP_append, eq_of_beq clean] at counted
    exact counted
  have refused : ∃ entry ∈ calls, entry.refusal ≠ none := by
    have positive : 0 < calls.countP fun entry => entry.refusal.isSome := by omega
    obtain ⟨entry, member, cause⟩ := List.countP_pos_iff.mp positive
    exact ⟨entry, member, Option.isSome_iff_ne_none.mp cause⟩
  exact ⟨m, m', calls, ran, performed, refusals, safe refused⟩

end StepPulse
