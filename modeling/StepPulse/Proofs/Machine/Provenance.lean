import StepPulse.Proofs.Machine.Alignment
import StepPulse.Proofs.Machine.Journal
import StepPulse.Proofs.Machine.Run
import StepPulse.Proofs.Segment.Origin

/-! What each queued segment was cut from, kept along a run. -/

namespace StepPulse

open Machine

variable {H : Type} {capacity : Nat}

/-- Any operation, save those that take blocks from the planner unexecuted. -/
def Machine.anyOrder : Rule H capacity := fun _ op => op.keepsBlocks = true

/-- Slicing notes what it cuts; whatever else takes place, the ring loses segments at most. -/
def Machine.trace (rig : Rig H) : Recorder H capacity Provenance := fun m op m' v =>
  match op with
  | .prepareSegments =>
    v.fill m.planner.source rig.sizing rig.settings SegmentRing.capacity m.pipeline
  | _ => v.keep m'.pipeline.segments.toList.length

structure Released (m m' : Machine H capacity) (s : Segment) (segments : List Segment) : Prop where
  queued : m.pipeline.segments.toList = s :: segments
  planner : m'.planner = if s.endsBlock then m.planner.discard else m.planner
  pipeline : m'.pipeline = { m.pipeline with segments := m.pipeline.segments.advance }
  executed : m'.runtime.segment = s
  finished : m'.runtime.stepsRemaining = 0

section Ticks

variable {rig : Rig H} {m m' ready : Machine H capacity} {first : Nat} {loadsBlock : Bool}

theorem Machine.Advances.released (advances : Advances rig m loadsBlock m')
    (coherent : Coherent rig.settings m first) (load : m.runtime.load = .nothing) :
    m'.planner = m.planner ∧ m'.pipeline = m.pipeline ∨ ∃ s segments, Released m m' s segments := by
  cases advances with
  | coasts => exact Or.inl ⟨rfl, rfl⟩
  | steps =>
      let paced := m.paced rig (nextDistance rig m + stepDistance m)
      obtain ⟨segments, _, _, _, queued, _⟩ := coherent.front (coherent.executing load)
      have left := toNat_stepsRemaining_stepEvent rig paced
      have finished (last : paced.runtime.stepsRemaining.toNat ≤ 1) :
          (stepEvent rig paced).runtime.stepsRemaining = 0 := by
        apply UInt32.toNat_inj.mp
        rw [left, UInt32.toNat_zero]
        omega
      cases completion rig paced with
      | within _ planner pipeline => exact Or.inl ⟨planner, pipeline⟩
      | segment last open_ planner pipeline =>
          refine Or.inr ⟨m.runtime.segment, segments, queued, ?_, pipeline, rfl, finished last⟩
          rw [show m.runtime.segment.endsBlock = false from open_]
          exact planner
      | block last ends planner pipeline =>
          refine Or.inr ⟨m.runtime.segment, segments, queued, ?_, pipeline, rfl, finished last⟩
          rw [show m.runtime.segment.endsBlock = true from ends]
          exact planner

theorem Ticks.released (ticks : Ticks rig m m')
    (coherent : Coherent rig.settings m first) :
    m'.planner = m.planner ∧ m'.pipeline = m.pipeline ∨ ∃ s segments, Released m m' s segments := by
  cases ticks with
  | still still => exact Or.inl ⟨still.planner, still.pipeline⟩
  | orphaned still peeked missing =>
      exact absurd missing ((coherent.still still).never_orphaned peeked)
  | advanced still loads advances =>
      have ready := (coherent.still still).loads loads
      have planner := loads.planner.trans still.planner
      have pipeline := loads.pipeline.trans still.pipeline
      rcases advances.released ready loads.load with ⟨planner', pipeline'⟩ | ⟨s, segments, released⟩
      · exact Or.inl ⟨planner'.trans planner, pipeline'.trans pipeline⟩
      · refine Or.inr ⟨s, segments, ?_, ?_, ?_, released.executed, released.finished⟩
        · rw [← pipeline]
          exact released.queued
        · rw [← planner]
          exact released.planner
        · rw [← pipeline]
          exact released.pipeline

end Ticks

structure Accounted (settings : Settings) (m : Machine H capacity) (v : Provenance) : Prop where
  coherent : ∃ first, Coherent settings m first
  traced : Traced m.planner m.pipeline v

namespace Accounted

variable {rig : Rig H} {settings : Settings} {m m' : Machine H capacity} {v : Provenance}

protected theorem fresh (settings : Settings) (hardware : H) {q : BlockQueue capacity}
    (eventful : ∀ b ∈ q.blocks, b.events ≠ 0) :
    Accounted settings (Machine.fresh hardware q) {} :=
  { coherent := ⟨0, Coherent.fresh settings hardware eventful⟩
    traced := Traced.reset _ q rfl }

theorem unchanged (accounted : Accounted settings m v)
    (coherent : ∃ first, Coherent settings m' first) (planner : m'.planner = m.planner)
    (pipeline : m'.pipeline = m.pipeline) :
    Accounted settings m' (v.keep m'.pipeline.segments.toList.length) := by
  obtain ⟨first, before⟩ := accounted.coherent
  refine ⟨coherent, ?_⟩
  rw [planner, pipeline, accounted.traced.keep_all before.aligned]
  exact accounted.traced

theorem ticks (accounted : Accounted rig.settings m v) (ticks : Ticks rig m m') :
    Accounted rig.settings m' (v.keep m'.pipeline.segments.toList.length) := by
  obtain ⟨first, before⟩ := accounted.coherent
  rcases ticks.released before with ⟨planner, pipeline⟩ | ⟨s, segments, released⟩
  · exact accounted.unchanged (before.ticks ticks) planner pipeline
  · refine ⟨before.ticks ticks, ?_⟩
    rw [released.planner, released.pipeline]
    exact accounted.traced.advance before.aligned released.queued

theorem effect (accounted : Accounted rig.settings m v) (effect : Effect rig m m') :
    Accounted rig.settings m' (v.keep m'.pipeline.segments.toList.length) := by
  obtain ⟨first, before⟩ := accounted.coherent
  have after := before.effect effect
  cases effect with
  | still still => exact accounted.unchanged after still.planner still.pipeline
  | asked still => exact accounted.unchanged after still.planner still.pipeline
  | placed axis steps => exact accounted.unchanged after rfl rfl
  | restarted still =>
      refine ⟨after, ?_⟩
      have empty : m'.pipeline.segments.toList = [] := by
        rw [still.pipeline]
        exact SegmentRing.toList_clear _
      rw [empty, still.planner, still.pipeline]
      exact Traced.reset _ _ (Provenance.queued_keep_zero v)
  | queued pushed =>
      refine ⟨after, ?_⟩
      have same := accounted.traced.keep_all before.aligned
      rw [show v.keep _ = v from same]
      exact accounted.traced.push before.aligned pushed

theorem perform {op : Operation} {reply : Reply} (accounted : Accounted rig.settings m v)
    (keeps : op.keepsBlocks = true) (performed : m.perform rig op = .ok (reply, m')) :
    Accounted rig.settings m' (trace rig m op m' v) := by
  by_cases slicing : op = .prepareSegments
  -- Slicing alone adds to the provenance.
  · subst slicing
    obtain ⟨first, before⟩ := accounted.coherent
    obtain ⟨p, count, filled, rfl⟩ := prepareSegments_performed performed
    exact ⟨⟨first, before.fill filled⟩, accounted.traced.fill before.aligned filled⟩
  · have same : trace rig m op m' v = v.keep m'.pipeline.segments.toList.length := by
      cases op <;> first | rfl | exact absurd rfl slicing
    rw [same]
    by_cases ticking : op = .tick
    · subst ticking
      cases performs performed
      exact accounted.ticks (Machine.ticks rig m)
    · exact accounted.effect (perform_effect keeps slicing ticking performed)

theorem run {rule : Rule H capacity} {start : Machine H capacity} {blank : Provenance}
    (keeps : ∀ m op, rule m op → op.keepsBlocks = true)
    (initially : Accounted rig.settings start blank)
    (ran : Run rig rule (trace rig) start blank m v) : Accounted rig.settings m v := by
  induction ran with
  | start => exact initially
  | step _ allowed performed ih => exact ih.perform (keeps _ _ allowed) performed

theorem front (accounted : Accounted settings m v) {s : Segment}
    (peeked : m.pipeline.segments.peek? = some s) :
    ∃ o, v.queued.head? = some o ∧ o.number = m.planner.tail ∧
      m.planner.current? = some o.block := by
  obtain ⟨first, coherent⟩ := accounted.coherent
  obtain ⟨segments, b, blocks, _, queued, planned, _⟩ := coherent.front peeked
  refine ⟨⟨m.planner.tail, b⟩, ?_, rfl, ?_⟩
  · rw [accounted.traced.queued, queued, planned, owners]
    rfl
  · exact BlockQueue.current?_of_planned planned

theorem length (accounted : Accounted settings m v) :
    v.queued.length = m.pipeline.segments.toList.length := by
  obtain ⟨first, coherent⟩ := accounted.coherent
  obtain ⟨slot, _, lays⟩ := coherent.aligned.lays
  rw [accounted.traced.queued, length_owners lays]

theorem origin (accounted : Accounted settings m v) {i : Nat} {o : Origin}
    (noted : v.queued[i]? = some o) :
    o.number = m.planner.tail + UInt64.ofNat (endings (m.pipeline.segments.toList.take i)) ∧
      m.planner.block? o.number = some o.block := by
  obtain ⟨first, coherent⟩ := accounted.coherent
  obtain ⟨slot, _, lays⟩ := coherent.aligned.lays
  rw [accounted.traced.queued] at noted
  obtain ⟨number, found⟩ := getElem?_owners lays m.planner.tail noted
  refine ⟨number, ?_⟩
  have few : endings (m.pipeline.segments.toList.take i) < ringSize := by
    apply Nat.lt_of_le_of_lt (endings_le _)
    rw [List.length_take, SegmentRing.length_toList]
    exact Nat.lt_of_le_of_lt (Nat.min_le_right ..) m.pipeline.segments.length_lt
  rw [number, m.planner.block?_ahead few, found]

theorem loaded (accounted : Accounted rig.settings m v) (due : m.runtime.load = .block)
    (done : (m.tick rig).runtime.load = .nothing) :
    ∃ s o, m.pipeline.segments.peek? = some s ∧ v.queued.head? = some o ∧
      (m.tick rig).runtime.segment = s ∧ (m.tick rig).runtime.block = o.block.active := by
  obtain ⟨first, coherent⟩ := accounted.coherent
  have ticks := Machine.ticks rig m
  generalize m.tick rig = m' at ticks done
  cases ticks with
  | still still =>
      rw [still.load, due] at done
      contradiction
  | orphaned still peeked missing =>
      exact absurd missing ((coherent.still still).never_orphaned peeked)
  | advanced still loads advances =>
      rw [← still.load] at due
      cases loads with
      | nothing load => rw [due] at load; contradiction
      | segment load => rw [due] at load; contradiction
      | @block s b _ peeked current =>
          rw [still.pipeline] at peeked
          rw [still.planner] at current
          obtain ⟨o, head, _, front⟩ := accounted.front peeked
          obtain rfl := Option.some.inj (current.symm.trans front)
          refine ⟨s, o, peeked, head, ?_⟩
          cases advances with
          | coasts => exact ⟨rfl, rfl⟩
          | steps _ other => contradiction

theorem noAlarm (accounted : Accounted rig.settings m v)
    (queued : m.pipeline.segments.peek? ≠ none) (taken : (applyStaged rig m).1 = .ok ()) :
    (m.tick rig).runState = m.runState := by
  obtain ⟨first, coherent⟩ := accounted.coherent
  have runState := runState_applyStaged rig m
  rcases tick_cases rig m with ⟨_, same⟩ | ⟨cause, m₀, refused, _⟩ | ⟨m₀, applied, executes⟩
  · rw [same]
  · rw [refused] at taken
    contradiction
  · rw [applied] at runState
    have begun := still_begun applied
    refine Eq.trans ?_ runState
    generalize m.tick rig = m' at executes
    cases executes with
    | advances loads => exact loads.runState_advance
    | holds => rfl
    | runsDry _ _ empty =>
        rw [begun.pipeline] at empty
        exact absurd empty queued
    | orphaned peeked missing =>
        exact absurd missing ((coherent.still begun).never_orphaned peeked)

theorem completed (accounted : Accounted rig.settings m v) :
    (m.tick rig).planner = m.planner ∧ (m.tick rig).pipeline = m.pipeline ∨
      ∃ s segments o, Released m (m.tick rig) s segments ∧ v.queued.head? = some o ∧
        o.number = m.planner.tail ∧ m.planner.current? = some o.block := by
  obtain ⟨first, coherent⟩ := accounted.coherent
  rcases (Machine.ticks rig m).released coherent with same | ⟨s, segments, released⟩
  · exact Or.inl same
  · have peeked : m.pipeline.segments.peek? = some s := by
      rw [SegmentRing.peek?_eq_head? coherent.aligned.ring, released.queued]
      rfl
    obtain ⟨o, head, number, current⟩ := accounted.front peeked
    exact Or.inr ⟨s, segments, o, released, head, number, current⟩

end Accounted

/-- What a provenance says of the machine beside it, and of all that the machine can do next. -/
structure Synchronised (rig : Rig H) (m : Machine H capacity) (v : Provenance) : Prop where
  length : v.queued.length = m.pipeline.segments.toList.length
  /-- It is a block that is still queued, and as many blocks behind the front one as end before the
  segment. -/
  origin : ∀ {i : Nat} {o : Origin}, v.queued[i]? = some o →
    o.number = m.planner.tail + UInt64.ofNat (endings (m.pipeline.segments.toList.take i)) ∧
      m.planner.block? o.number = some o.block
  number : m.pipeline.number =
    m.planner.tail + UInt64.ofNat (endings m.pipeline.segments.toList)
  loaded : m.runtime.load = .block → (m.tick rig).runtime.load = .nothing →
    ∃ s o, m.pipeline.segments.peek? = some s ∧ v.queued.head? = some o ∧
      (m.tick rig).runtime.segment = s ∧ (m.tick rig).runtime.block = o.block.active
  noAlarm : m.pipeline.segments.peek? ≠ none → (applyStaged rig m).1 = .ok () →
    (m.tick rig).runState = m.runState
  completed : (m.tick rig).planner = m.planner ∧ (m.tick rig).pipeline = m.pipeline ∨
    ∃ s segments o, Released m (m.tick rig) s segments ∧ v.queued.head? = some o ∧
      o.number = m.planner.tail ∧ m.planner.current? = some o.block
  kept : ∀ {op : Operation} {reply : Reply} {m' : Machine H capacity}, op ≠ .tick →
    op.keepsBlocks = true → m.perform rig op = .ok (reply, m') →
    m'.planner.tail = m.planner.tail ∧ m.planner.blocks <+: m'.planner.blocks

theorem planner_kept {rig : Rig H} {m m' : Machine H capacity} {op : Operation} {reply : Reply}
    (other : op ≠ .tick) (keeps : op.keepsBlocks = true)
    (performed : m.perform rig op = .ok (reply, m')) :
    m'.planner.tail = m.planner.tail ∧ m.planner.blocks <+: m'.planner.blocks := by
  by_cases slicing : op = .prepareSegments
  · subst slicing
    obtain ⟨p, count, _, rfl⟩ := prepareSegments_performed performed
    exact ⟨rfl, List.prefix_rfl⟩
  · have same : m'.planner = m.planner →
        m'.planner.tail = m.planner.tail ∧ m.planner.blocks <+: m'.planner.blocks := by
      intro planner
      rw [planner]
      exact ⟨rfl, List.prefix_rfl⟩
    cases perform_effect keeps slicing other performed with
    | still still => exact same still.planner
    | asked still => exact same still.planner
    | restarted still => exact same still.planner
    | placed axis steps => exact same rfl
    | queued pushed =>
        obtain ⟨_, _, _, rfl⟩ := BlockQueue.push_eq_ok_iff.mp pushed
        exact ⟨rfl, List.prefix_append _ _⟩

/-- In any order of operations and with any refusals, the three cursors stay in step: the planner's
tail, the ring's tail, and the number at which slicing stands. -/
theorem pipeline_synchronised (rig : Rig H) (hardware : H) {q : BlockQueue capacity}
    (eventful : ∀ b ∈ q.blocks, b.events ≠ 0) {m : Machine H capacity} {v : Provenance}
    (ran : Run rig anyOrder (trace rig) (Machine.fresh hardware q) {} m v) :
    Synchronised rig m v := by
  have accounted : Accounted rig.settings m v :=
    Accounted.run (fun _ _ keeps => keeps) (Accounted.fresh rig.settings hardware eventful) ran
  obtain ⟨first, coherent⟩ := accounted.coherent
  exact
    { length := accounted.length
      origin := accounted.origin
      number := coherent.aligned.number
      loaded := accounted.loaded
      noAlarm := accounted.noAlarm
      completed := accounted.completed
      kept := planner_kept }

def Block.sample : Block :=
  { steps := ⟨3, 1, 0⟩, events := 3, directions := Lines.direction .y, entrySquared := 0.0
    nominalSquared := 360000.0, acceleration := 36000.0, length := 1.0 }

def sampleRig : Rig Unit :=
  Rig.bench { segmentStepCap := 2, minimumStepRate := 4000000000 } Sizing.fixed

def sampleRun : List Operation :=
  [.pushBlock .sample, .prepareSegments, .queue, .cycleStart, .tick, .tick, .tick]

theorem exists_sample_run (shown : Machine Unit 4 × Provenance → Bool)
    (followed : (follow sampleRig (fun _ op => op.keepsBlocks) (trace sampleRig)
      (Machine.fresh () { blocks := [.sample] }) {} sampleRun).any shown = true) :
    ∃ m v,
      Run sampleRig anyOrder (trace sampleRig) (Machine.fresh () { blocks := [.sample] }) {} m v ∧
      shown (m, v) = true :=
  exists_run (fun _ _ keeps => keeps) followed

theorem synchronised_amid_block :
    ∃ (m : Machine Unit 4) (v : Provenance),
      Run sampleRig anyOrder (trace sampleRig) (Machine.fresh () { blocks := [.sample] }) {} m v ∧
      v.queued.map Origin.number = [0, 1, 1] ∧ Synchronised sampleRig m v := by
  obtain ⟨m, v, ran, shown⟩ := exists_sample_run
    (fun r => r.2.queued.map Origin.number == [0, 1, 1]) (by decide +kernel)
  exact ⟨m, v, ran, eq_of_beq shown, pipeline_synchronised sampleRig () (by decide) ran⟩

end StepPulse
