import StepPulse.Proofs.Machine.Provenance
import StepPulse.Proofs.Machine.Worklist

/-!
Slicing that falls behind its planner. Slicing goes by a number of its own, which only a restart
sets back to the planner's tail. A block that is taken from the planner unexecuted moves the tail
past that number, and nothing but a block that is executed with the planner empty lets it catch up.
Until then no number that slicing asks for is queued, and what is queued is never sliced.
-/

namespace StepPulse

open Machine

variable {H : Type} {capacity : Nat}

/-- How many numbers slicing is behind the planner; as the numbers do, it wraps. -/
def Machine.arrears : Recorder H capacity UInt64 := fun m op m' behind =>
  match op with
  | .init => 0
  | .reset => 0
  | .discardBlock => behind + UInt64.ofNat (m.planner.length - m'.planner.length)
  | .clearBlocks => behind + UInt64.ofNat (m.planner.length - m'.planner.length)
  | .tick =>
    if m.planner.isEmpty ∧
        endings m'.pipeline.segments.toList < endings m.pipeline.segments.toList then
      behind - 1
    else behind
  | _ => behind

namespace BlockQueue

variable {q : BlockQueue capacity}

theorem tail_discard (q : BlockQueue capacity) :
    q.discard.tail = q.tail + UInt64.ofNat (q.length - q.discard.length) := by
  rw [length, length, blocks_discard]
  cases planned : q.blocks with
  | nil => simp [discard, planned]
  | cons b blocks =>
      rw [discard_of_planned planned]
      simp

theorem tail_clear (q : BlockQueue capacity) :
    q.clear.tail = q.tail + UInt64.ofNat (q.length - q.clear.length) := rfl

theorem block?_behind (q : BlockQueue capacity) {number behind : UInt64}
    (tail : q.tail = number + behind) (some_ : behind ≠ 0)
    (fits : q.length + behind.toNat ≤ UInt64.size) : q.block? number = none := by
  have positive : 0 < behind.toNat :=
    Nat.pos_of_ne_zero fun zero => some_ (UInt64.toNat_inj.mp zero)
  have far : (number - q.tail).toNat = UInt64.size - behind.toNat := by
    have bound := behind.toNat_lt
    have bound' := number.toNat_lt
    rw [tail, UInt64.toNat_sub, UInt64.toNat_add]
    simp only [UInt64.size] at *
    omega
  rw [block?, far]
  apply List.getElem?_eq_none
  rw [length] at fits
  omega

end BlockQueue

namespace Pipeline

variable {source : BlockSource} {sizing : Sizing} {settings : Settings} {p p' : Pipeline}
  {room count : Nat}

theorem fill_stalled (free : p.preparing = false) (missing : source.block? p.number = none) :
    p.fill source sizing settings (room + 1) = .ok (p, 0) := by
  have idle : p.slice source sizing settings = .ok none := by
    rw [slice, takeUp, free, missing]
    split <;> rfl
  rw [fill_succ, idle]

theorem fill_pos {b : Block} (open_ : ¬ p.segments.isFull = true)
    (found : source.block? p.number = some b)
    (filled : p.fill source sizing settings (room + 1) = .ok (p', count)) :
    0 < count ∧ ∃ next, p.slice source sizing settings = .ok (some next) := by
  rw [fill_succ] at filled
  split at filled
  · contradiction
  · next sliced =>
    rcases slice_eq_none sliced with full | ⟨_, missing⟩
    · exact absurd full open_
    · rw [missing] at found
      contradiction
  · next next sliced =>
    refine ⟨?_, next, sliced⟩
    split at filled
    · contradiction
    · obtain ⟨_, rfl⟩ := Prod.mk.inj (Except.ok.inj filled)
      exact Nat.zero_lt_succ _

end Pipeline

namespace Provenance

variable {source : BlockSource} {sizing : Sizing} {settings : Settings}

theorem queued_fill (room : Nat) (p : Pipeline) (v : Provenance) :
    v.queued <+: (v.fill source sizing settings room p).queued := by
  induction room generalizing p v with
  | zero => exact List.prefix_rfl
  | succ room ih =>
      rw [fill]
      split
      · next next _ => exact (List.prefix_append _ _).trans (ih next (v.slice source p))
      · exact List.prefix_rfl

theorem head?_fill {room : Nat} {p next : Pipeline} {b : Block} (free : p.preparing = false)
    (found : source.block? p.number = some b)
    (sliced : p.slice source sizing settings = .ok (some next)) :
    (fill source sizing settings (room + 1) p {}).queued.head? = some ⟨p.number, b⟩ := by
  have first : (slice source p {}).queued = [⟨p.number, b⟩] := by
    simp [slice, cutting, free, found]
  have later : (slice source p {}).queued <+:
      (fill source sizing settings room next (slice source p {})).queued := queued_fill room next _
  rw [first] at later
  rw [fill, sliced]
  obtain ⟨more, queued⟩ := later
  rw [← queued]
  rfl

end Provenance

/-- Slicing is on its worklist, so many numbers behind the planner. -/
structure Behind (settings : Settings) (m : Machine H capacity) (behind : UInt64) : Prop where
  lag : ∃ w first, Listed settings m w first ∧ m.planner.tail = w.tail + behind

namespace Behind

variable {rig : Rig H} {m m' : Machine H capacity} {behind : UInt64}

protected theorem fresh (settings : Settings) (hardware : H) {q : BlockQueue capacity}
    (eventful : ∀ b ∈ q.blocks, b.events ≠ 0) : Behind settings (Machine.fresh hardware q) 0 :=
  ⟨_, 0, Listed.fresh settings hardware eventful, (UInt64.add_zero _).symm⟩

theorem tick (lagging : Behind rig.settings m behind) :
    Behind rig.settings (m.tick rig) (arrears m .tick (m.tick rig) behind) := by
  obtain ⟨w, first, listed, tail⟩ := lagging.lag
  obtain ⟨w', first', listed', worked⟩ := listed.ticks (Machine.ticks rig m)
  refine ⟨w', first', listed', ?_⟩
  cases worked with
  | goesOn planner same =>
      have still : arrears m .tick (m.tick rig) behind = behind := by
        rw [arrears, same]
        simp
      rw [still, planner, tail]
  | crosses begun planner due fewer =>
      obtain ⟨b, blocks, planned⟩ := List.exists_cons_of_ne_nil begun
      have moved : w.discard.tail = w.tail + 1 := by
        rw [BlockQueue.discard_of_planned planned]
      rw [planner, moved]
      cases queued : m.planner.blocks with
      | nil =>
          have caught : arrears m .tick (m.tick rig) behind = behind - 1 := by
            simp [arrears, BlockQueue.isEmpty, queued, fewer]
          have same : m.planner.discard = m.planner := by
            rw [BlockQueue.discard, queued]
          rw [caught, same, tail]
          grind
      | cons b' blocks' =>
          have still : arrears m .tick (m.tick rig) behind = behind := by
            simp [arrears, BlockQueue.isEmpty, queued]
          rw [still, BlockQueue.discard_of_planned queued, tail]
          grind

theorem perform {op : Operation} {reply : Reply} (lagging : Behind rig.settings m behind)
    (performed : m.perform rig op = .ok (reply, m')) :
    Behind rig.settings m' (arrears m op m' behind) := by
  obtain ⟨w, first, listed, tail⟩ := lagging.lag
  cases restarts : op.restarts with
  | true =>
      -- The worklist is dropped, and slicing starts again at the planner's tail.
      have still := perform_restarts restarts performed
      have planner : m'.planner = m.planner := still.planner
      have caught : arrears m op m' behind = 0 := by
        cases op with
        | init => rfl
        | reset => rfl
        | _ => contradiction
      refine ⟨{ tail := m.planner.tail }, 0, listed.restarted still, ?_⟩
      rw [caught, planner, UInt64.add_zero]
  | false =>
      by_cases ticking : op = .tick
      · subst ticking
        cases performs performed
        exact lagging.tick
      obtain ⟨w', listed', same, _⟩ := listed.perform restarts ticking performed
      refine ⟨w', first, listed', ?_⟩
      rw [same]
      cases keeps : op.keepsBlocks with
      | true =>
          have still : arrears m op m' behind = behind := by
            cases op with
            | init => contradiction
            | reset => contradiction
            | tick => exact absurd rfl ticking
            | discardBlock => contradiction
            | clearBlocks => contradiction
            | _ => rfl
          rw [still, (planner_kept ticking keeps performed).1, tail]
      | false =>
          cases performs performed with
          | discardBlock =>
              rw [arrears, ← UInt64.add_assoc, ← tail]
              exact m.planner.tail_discard
          | clearBlocks =>
              rw [arrears, ← UInt64.add_assoc, ← tail]
              exact m.planner.tail_clear
          | _ => contradiction

theorem run {rule : Rule H capacity} {start : Machine H capacity} {blank : UInt64}
    (initially : Behind rig.settings start blank)
    (ran : Run rig rule arrears start blank m behind) : Behind rig.settings m behind := by
  induction ran with
  | start => exact initially
  | step _ _ performed ih => exact ih.perform performed

end Behind

structure Resumes (rig : Rig H) (m : Machine H capacity) (b : Block) (behind : UInt64) : Prop where
  emits : behind = 0 → ∀ {count : Nat} {m' : Machine H capacity},
    m.prepareSegments rig = .ok (count, m') → 0 < count ∧
      (Provenance.fill m.planner.source rig.sizing rig.settings SegmentRing.capacity m.pipeline
        {}).queued.head? = some ⟨m.planner.tail, b⟩
  answers : (∀ number, ∃ after, m.planner.breakpoint number = .ok after) →
    ∃ count m', m.prepareSegments rig = .ok (count, m')
  stalls : behind ≠ 0 → m.planner.length + behind.toNat ≤ UInt64.size →
    m.prepareSegments rig = .ok (0, m)

/-- In any order of operations, with blocks taken from the planner at any time and with any
refusals: when all that was sliced is executed, slicing goes on with the planner's front block if it
is up with the planner, and stalls if it is behind. -/
theorem slicing_resumes_unless_behind (rig : Rig H) (hardware : H) {q : BlockQueue capacity}
    (eventful : ∀ b ∈ q.blocks, b.events ≠ 0) {m : Machine H capacity} {behind : UInt64}
    (ran : Run rig unrestricted arrears (Machine.fresh hardware q) 0 m behind)
    (empty : m.pipeline.segments.toList = []) (free : m.pipeline.preparing = false) {b : Block}
    (current : m.planner.current? = some b) : Resumes rig m b behind := by
  obtain ⟨w, first, listed, tail⟩ := ((Behind.fresh rig.settings hardware eventful).run ran).lag
  have number : m.planner.tail = m.pipeline.number + behind := by
    rw [listed.worklist.number_of_empty empty]
    exact tail
  have open_ : ¬ m.pipeline.segments.isFull = true := by
    rw [listed.ring.isFull_iff, ← SegmentRing.length_toList, empty]
    decide
  constructor
  · intro caught count m' prepared
    rw [caught, UInt64.add_zero] at number
    have found : m.planner.source.block? m.pipeline.number = some b := by
      rw [← number]
      exact m.planner.block?_tail.trans current
    rw [prepareSegments, Pipeline.prepare] at prepared
    split at prepared
    · contradiction
    · next p emitted filled =>
      obtain ⟨rfl, _⟩ := Prod.mk.inj (Except.ok.inj prepared)
      obtain ⟨positive, next, sliced⟩ := Pipeline.fill_pos open_ found filled
      refine ⟨positive, ?_⟩
      rw [number]
      exact Provenance.head?_fill free found sliced
  · intro breaks
    have breaks : ∀ number, ∃ after, m.planner.source.breakpoint number = .ok after := breaks
    obtain ⟨p, count, filled⟩ := Pipeline.fill_total breaks SegmentRing.capacity m.pipeline
    rw [prepareSegments, Pipeline.prepare, filled]
    exact ⟨_, _, rfl⟩
  · -- The number that slicing asks for is behind the tail, so filling ends before its first turn.
    intro late fits
    have missing : m.planner.source.block? m.pipeline.number = none :=
      m.planner.block?_behind number late fits
    have stalled : m.pipeline.fill m.planner.source rig.sizing rig.settings SegmentRing.capacity =
        .ok (m.pipeline, 0) := Pipeline.fill_stalled free missing
    rw [prepareSegments, Pipeline.prepare, stalled]

theorem resumes_after_discard :
    ∃ m : Machine Unit 4,
      Run sampleRig unrestricted arrears (Machine.fresh () {}) 0 m 0 ∧
      m.pipeline.segments.toList = [] ∧ m.pipeline.preparing = false ∧ m.planner.tail = 1 ∧
      m.planner.current? = some .sample ∧ Resumes sampleRig m .sample 0 := by
  obtain ⟨m, behind, ran, shown⟩ := exists_unrestricted sampleRig arrears
    (Machine.fresh () {} : Machine Unit 4) 0
    [.pushBlock .sample, .prepareSegments, .queue, .cycleStart, .tick, .discardBlock, .tick, .tick,
      .tick, .pushBlock .sample]
    (fun r => r.2 == 0 && (r.1.pipeline.segments.toList == [] && (r.1.pipeline.preparing == false &&
      (r.1.planner.tail == 1 && r.1.planner.current? == some .sample)))) (by decide +kernel)
  simp only [Bool.and_eq_true, beq_iff_eq] at shown
  obtain ⟨rfl, empty, free, tail, current⟩ := shown
  exact ⟨m, ran, empty, free, tail, current,
    slicing_resumes_unless_behind sampleRig () (by decide) ran empty free current⟩

/-- Nothing was ever sliced, and a block is queued; but the planner was cleared before, and slicing
still asks for the number of a block that is gone. -/
theorem cleared_planner_stalls :
    ∃ m : Machine Unit 4,
      Run sampleRig unrestricted arrears (Machine.fresh () {}) 0 m 1 ∧
      m.pipeline.segments.toList = [] ∧ m.pipeline.preparing = false ∧
      m.planner.current? = some .sample ∧
      (m.prepareSegments sampleRig).toOption.map Prod.fst = some 0 := by
  obtain ⟨m, behind, ran, shown⟩ := exists_unrestricted sampleRig arrears
    (Machine.fresh () {} : Machine Unit 4) 0 [.pushBlock .sample, .clearBlocks, .pushBlock .sample]
    (fun r => r.2 == 1 && (r.1.pipeline.segments.toList == [] && (r.1.pipeline.preparing == false &&
      (r.1.planner.current? == some .sample &&
        (r.1.prepareSegments sampleRig).toOption.map Prod.fst == some 0)))) (by decide +kernel)
  simp only [Bool.and_eq_true, beq_iff_eq] at shown
  obtain ⟨rfl, empty, free, current, stalled⟩ := shown
  exact ⟨m, ran, empty, free, current, stalled⟩

end StepPulse
