import StepPulse.Proofs.Machine.Provenance

/-!
The data of a block are kept in a ring that is written without a look at who still reads it. That
nobody does is a matter of counting: each block leaves a segment behind, one place of the segment
ring stays free, and both rings have the same size.
-/

namespace StepPulse

open Machine

variable {H : Type} {capacity : Nat}

structure SlotsOwned (rig : Rig H) (m : Machine H capacity) (v : Provenance) : Prop where
  length : v.queued.length = m.pipeline.segments.toList.length
  rates : ∀ {i : Nat} {s : Segment} {o : Origin}, m.pipeline.segments.toList[i]? = some s →
    v.queued[i]? = some o →
    (m.pipeline.blocks.get s.slot).rates = Rates.ofBlock o.block rig.settings
  executing : m.runtime.load = .nothing →
    m.pipeline.segments.toList.head? = some m.runtime.segment
  /-- However far slicing has come, the block that it starts next takes no entry of a queued
  segment. -/
  spare : ∀ {turns : Nat} {p : Pipeline},
    m.pipeline.fill m.planner.source rig.sizing rig.settings turns = .ok (p, turns) →
    ¬ p.segments.isFull = true → p.preparing = false → ∀ s ∈ p.segments.toList,
    ∀ b : SlicedBlock, (p.blocks.start b).get s.slot = p.blocks.get s.slot

theorem Accounted.rates {settings : Settings} {m : Machine H capacity} {v : Provenance}
    (accounted : Accounted settings m v) {i : Nat} {s : Segment} {o : Origin}
    (queued : m.pipeline.segments.toList[i]? = some s) (noted : v.queued[i]? = some o) :
    (m.pipeline.blocks.get s.slot).rates = Rates.ofBlock o.block settings := by
  obtain ⟨first, coherent⟩ := accounted.coherent
  obtain ⟨slot, _, lays⟩ := coherent.aligned.lays
  rw [accounted.traced.queued] at noted
  exact rates_owners lays m.planner.tail queued noted

theorem Aligned.start_spares {settings : Settings} {q : BlockQueue capacity} {p : Pipeline}
    {first : Nat} (aligned : Aligned settings q p first) (room : ¬ p.segments.isFull = true)
    (free : p.preparing = false) {s : Segment} (member : s ∈ p.segments.toList)
    (b : SlicedBlock) : (p.blocks.start b).get s.slot = p.blocks.get s.slot :=
  (SlicedBlockRing.get_start p.blocks b s.slot).trans (if_neg (aligned.spare room free member))

/-- No order of operations, and no refusal, brings a queued segment and the data of its block
apart. -/
theorem slots_owned (rig : Rig H) (hardware : H) {q : BlockQueue capacity}
    (eventful : ∀ b ∈ q.blocks, b.events ≠ 0) {m : Machine H capacity} {v : Provenance}
    (ran : Run rig anyOrder (trace rig) (Machine.fresh hardware q) {} m v) :
    SlotsOwned rig m v := by
  have accounted : Accounted rig.settings m v :=
    Accounted.run (fun _ _ keeps => keeps) (Accounted.fresh rig.settings hardware eventful) ran
  obtain ⟨first, coherent⟩ := accounted.coherent
  refine
    { length := accounted.length
      rates := accounted.rates
      executing := ?_
      spare := ?_ }
  · intro load
    rw [← SegmentRing.peek?_eq_head? coherent.aligned.ring]
    exact coherent.executing load
  · intro turns p filled room free s member b
    exact (coherent.aligned.fill filled).start_spares room free member b

theorem slots_owned_amid_block :
    ∃ (m : Machine Unit 4) (v : Provenance),
      Run sampleRig anyOrder (trace sampleRig) (Machine.fresh () { blocks := [.sample] }) {} m v ∧
      m.pipeline.segments.toList.map Segment.slot = [1, 2, 2] ∧ SlotsOwned sampleRig m v := by
  obtain ⟨m, v, ran, shown⟩ := exists_sample_run
    (fun r => r.1.pipeline.segments.toList.map Segment.slot == [1, 2, 2])
    (by decide +kernel)
  exact ⟨m, v, ran, eq_of_beq shown, slots_owned sampleRig () (by decide) ran⟩

end StepPulse
