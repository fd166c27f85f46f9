import StepPulse.Proofs.Machine.Alignment
import StepPulse.Proofs.Segment.Worklist

/-!
The worklist of a running machine. Blocks can be taken from the planner behind the machine's back,
and the ring then no longer lies over the planner. It still lies over the worklist: over the same
machine with the worklist for its planner, everything is coherent.
-/

namespace StepPulse

open Machine

variable {H : Type} {capacity : Nat}

def Machine.under (w : BlockQueue capacity) (m : Machine H capacity) : Machine H capacity :=
  { m with planner := w }

/-- The machine executes its worklist; `first` events of the front block lie before the ring. -/
structure Listed (settings : Settings) (m : Machine H capacity) (w : BlockQueue capacity)
    (first : Nat) : Prop where
  coherent : Coherent settings (m.under w) first
  begun : w.blocks.length =
    endings m.pipeline.segments.toList + if m.pipeline.preparing then 1 else 0
  eventful : ∀ b ∈ m.planner.blocks, b.events ≠ 0

inductive Worked (m m' : Machine H capacity) (w : BlockQueue capacity) :
    BlockQueue capacity → Prop
  | goesOn :
      m'.planner = m.planner →
      endings m'.pipeline.segments.toList = endings m.pipeline.segments.toList → Worked m m' w w
  | crosses :
      w.blocks ≠ [] → m'.planner = m.planner.discard → m'.runtime.load = .block →
      endings m.pipeline.segments.toList = endings m'.pipeline.segments.toList + 1 →
      Worked m m' w w.discard

theorem BlockQueue.eventful_of_block? {q : BlockQueue capacity}
    (eventful : ∀ b ∈ q.blocks, b.events ≠ 0) {number : UInt64} {b : Block}
    (found : q.block? number = some b) : b.events ≠ 0 :=
  eventful b (List.mem_of_getElem? found)

namespace Listed

variable {rig : Rig H} {settings : Settings} {m m' ready : Machine H capacity}
  {w : BlockQueue capacity} {first : Nat} {loadsBlock : Bool}

theorem worklist (listed : Listed settings m w first) : Worklist settings w m.pipeline first :=
  ⟨listed.coherent.aligned, listed.begun⟩

theorem ring (listed : Listed settings m w first) : m.pipeline.segments.WellFormed :=
  listed.coherent.aligned.ring

theorem congr (listed : Listed settings m w first) (pipeline : m'.pipeline = m.pipeline)
    (load : m'.runtime.load = m.runtime.load) (segment : m'.runtime.segment = m.runtime.segment)
    (stepsRemaining : m'.runtime.stepsRemaining = m.runtime.stepsRemaining)
    (eventful : ∀ b ∈ m'.planner.blocks, b.events ≠ 0) : Listed settings m' w first := by
  refine ⟨?_, ?_, eventful⟩
  · have under : Coherent settings (m.under w) first := listed.coherent
    exact under.congr rfl pipeline load segment stepsRemaining
  · rw [pipeline]
    exact listed.begun

theorem still (listed : Listed settings m w first) (still : Still m m') :
    Listed settings m' w first := by
  apply listed.congr still.pipeline still.load still.segment still.stepsRemaining
  rw [still.planner]
  exact listed.eventful

theorem requestBlock (listed : Listed settings m w first) :
    Listed settings m.requestBlock w first :=
  ⟨listed.coherent.requestBlock, listed.begun, listed.eventful⟩

theorem replanned (listed : Listed settings m w first) (planner : BlockQueue capacity)
    (eventful : ∀ b ∈ planner.blocks, b.events ≠ 0) :
    Listed settings { m with planner := planner } w first :=
  listed.congr rfl rfl rfl rfl eventful

theorem reset (settings : Settings) (m : Machine H capacity)
    (eventful : ∀ b ∈ m.planner.blocks, b.events ≠ 0) :
    Listed settings m.reset { tail := m.planner.tail } 0 := by
  have worklist : Worklist settings ({ tail := m.planner.tail } : BlockQueue capacity)
      m.reset.pipeline 0 := Worklist.reset settings m.pipeline m.planner.tail
  exact
    { coherent :=
        { aligned := worklist.aligned, executing := nofun, left := nofun, within := nofun }
      begun := worklist.begun
      eventful := eventful }

theorem fill (listed : Listed settings m w first) {sizing : Sizing} {room count : Nat}
    {p : Pipeline}
    (filled : m.pipeline.fill m.planner.source sizing settings room = .ok (p, count)) :
    ∃ w' : BlockQueue capacity, Listed settings { m with pipeline := p } w' first ∧
      w'.tail = w.tail ∧ w.blocks <+: w'.blocks ∧
      ∀ b ∈ w'.blocks, b ∈ w.blocks ∨ b ∈ m.planner.blocks := by
  obtain ⟨w', worklist, tail, older, taken⟩ :=
    listed.worklist.fill (BlockQueue.eventful_of_block? listed.eventful) filled
  refine ⟨w', ⟨?_, worklist.begun, listed.eventful⟩, tail, older, fun b member => ?_⟩
  · exact
      { aligned := worklist.aligned
        executing := fun load =>
          Pipeline.peek?_fill listed.ring (listed.coherent.executing load) filled
        left := listed.coherent.left
        within := listed.coherent.within }
  · rcases taken b member with old | ⟨number, found⟩
    · exact Or.inl old
    · exact Or.inr (List.mem_of_getElem? found)

/-- The segment at the front of the ring was cut from the front block of the worklist, and from no
other. -/
theorem front (listed : Listed settings m w first) {s : Segment}
    (peeked : m.pipeline.segments.peek? = some s) :
    ∃ b blocks, w.blocks = b :: blocks ∧ 0 < s.steps.toNat ∧
      (m.pipeline.blocks.get s.slot).rates = Rates.ofBlock b settings := by
  obtain ⟨_, b, blocks, slot, _, planned, cut⟩ := listed.coherent.front peeked
  refine ⟨b, blocks, planned, cut.positive, ?_⟩
  rw [cut.place]
  exact cut.rates

theorem loaded (listed : Listed settings m w first) {s : Segment}
    (peeked : m.pipeline.segments.peek? = some s) (planner : ready.planner = m.planner)
    (pipeline : ready.pipeline = m.pipeline) (segment : ready.runtime.segment = s)
    (all : ready.runtime.stepsRemaining = s.steps) : Listed settings ready w first := by
  obtain ⟨_, _, _, positive, _⟩ := listed.front peeked
  have coherent : Coherent settings (ready.under w) first := by
    refine
      { aligned := ?_, executing := fun _ => ?_, left := fun _ => ?_, within := fun _ => ?_ }
    · show Aligned settings w ready.pipeline first
      rw [pipeline]
      exact listed.coherent.aligned
    · show ready.pipeline.segments.peek? = some ready.runtime.segment
      rw [pipeline, segment, peeked]
    · show 0 < ready.runtime.stepsRemaining.toNat
      rw [all]
      exact positive
    · show ready.runtime.stepsRemaining.toNat ≤ ready.runtime.segment.steps.toNat
      exact Nat.le_of_eq (by rw [all, segment])
  refine ⟨coherent, ?_, ?_⟩
  · rw [pipeline]
    exact listed.begun
  · rw [planner]
    exact listed.eventful

theorem loads (listed : Listed settings m w first) (loads : Loads rig m ready loadsBlock) :
    Listed settings ready w first := by
  cases loads with
  | nothing => exact listed
  | segment _ peeked => exact listed.loaded peeked rfl rfl rfl rfl
  | block _ peeked => exact listed.loaded peeked rfl rfl rfl rfl

theorem stepEvent (rig : Rig H) (listed : Listed settings m w first)
    (load : m.runtime.load = .nothing) :
    ∃ w', Listed settings (Machine.stepEvent rig m) w' (Coherent.passed m first) ∧
      Worked m (Machine.stepEvent rig m) w w' := by
  have coherent := listed.coherent.stepEvent rig load
  have crossing := planner_stepEvent rig (m.under w)
  obtain ⟨segments, b, blocks, _, queued, planned, _⟩ :=
    listed.coherent.front (listed.coherent.executing load)
  have queued : m.pipeline.segments.toList = m.runtime.segment :: segments := queued
  have left : m.pipeline.segments.advance.toList = segments := by
    rw [SegmentRing.toList_advance listed.ring, queued, List.tail_cons]
  have ends := endings_cons m.runtime.segment segments
  rw [← queued] at ends
  have begun := listed.begun
  cases completion rig m with
  | within more planner pipeline loaded =>
      rw [if_neg fun crossed => Nat.not_le_of_lt more crossed.1] at crossing
      refine ⟨w, ⟨coherent.congr crossing.symm rfl rfl rfl rfl, ?_, ?_⟩, .goesOn planner ?_⟩
      · rwa [pipeline]
      · rw [planner]
        exact listed.eventful
      · rw [pipeline]
  | segment last open_ planner pipeline due =>
      rw [if_neg fun crossed => Bool.false_ne_true (open_.symm.trans crossed.2)] at crossing
      rw [open_, if_neg Bool.false_ne_true, Nat.add_zero] at ends
      refine ⟨w, ⟨coherent.congr crossing.symm rfl rfl rfl rfl, ?_, ?_⟩, .goesOn planner ?_⟩
      · rw [pipeline, left, ← ends]
        exact begun
      · rw [planner]
        exact listed.eventful
      · rw [pipeline, left, ends]
  | block last closed planner pipeline due =>
      rw [if_pos ⟨last, closed⟩] at crossing
      rw [closed, if_pos rfl] at ends
      refine ⟨w.discard, ⟨coherent.congr crossing.symm rfl rfl rfl rfl, ?_, ?_⟩,
        .crosses (List.ne_nil_of_mem (planned ▸ List.mem_cons_self)) planner due ?_⟩
      · rw [pipeline, left, BlockQueue.blocks_discard, List.length_tail, begun, ends]
        show _ = endings segments + if m.pipeline.preparing then 1 else 0
        omega
      · rw [planner, BlockQueue.blocks_discard]
        exact fun b member => listed.eventful b (List.mem_of_mem_tail member)
      · rw [pipeline, left, ends]

theorem paced (listed : Listed settings m w first) (rig : Rig H) (distance : Int) :
    Listed settings (m.paced rig distance) w first :=
  listed.congr rfl rfl rfl rfl listed.eventful

theorem setBusy (listed : Listed settings m w first) (busy : Bool) :
    Listed settings (m.setBusy busy) w first :=
  listed.congr rfl rfl rfl rfl listed.eventful

theorem advances (listed : Listed settings m w first) (load : m.runtime.load = .nothing)
    (advances : Advances rig m loadsBlock m') :
    ∃ w' first', Listed settings m' w' first' ∧ Worked m m' w w' := by
  cases advances with
  | coasts => exact ⟨w, first, (listed.paced rig _).setBusy false, .goesOn rfl rfl⟩
  | steps =>
      obtain ⟨w', after, worked⟩ := (listed.paced rig
        (nextDistance rig m + stepDistance m)).stepEvent rig load
      refine ⟨w', _, after.setBusy false, ?_⟩
      cases worked with
      | goesOn planner same => exact .goesOn planner same
      | crosses begun planner due fewer => exact .crosses begun planner due fewer

theorem ticks (listed : Listed settings m w first) (ticks : Ticks rig m m') :
    ∃ w' first', Listed settings m' w' first' ∧ Worked m m' w w' := by
  cases ticks with
  | still still =>
      refine ⟨w, first, listed.still still, .goesOn still.planner ?_⟩
      rw [still.pipeline]
  | @orphaned m₀ s still peeked =>
      have loaded : Listed settings (loadSegment m₀ s) w first :=
        (listed.still still).loaded peeked rfl rfl rfl rfl
      have alarmed := still_enterAlarm rig (loadSegment m₀ s)
      refine ⟨w, first, loaded.still alarmed, .goesOn still.planner ?_⟩
      rw [alarmed.pipeline, loadSegment, still.pipeline]
  | advanced still loads advances =>
      obtain ⟨w', first', after, worked⟩ :=
        ((listed.still still).loads loads).advances loads.load advances
      have planner := loads.planner.trans still.planner
      have pipeline := loads.pipeline.trans still.pipeline
      refine ⟨w', first', after, ?_⟩
      cases worked with
      | goesOn planner' same =>
          rw [pipeline] at same
          exact .goesOn (planner'.trans planner) same
      | crosses begun planner' due fewer =>
          rw [planner] at planner'
          rw [pipeline] at fewer
          exact .crosses begun planner' due fewer

theorem interlude (listed : Listed settings m w first) (interlude : Interlude m m') :
    Listed settings m' w first := by
  cases interlude with
  | still still => exact listed.still still
  | asked still => exact listed.requestBlock.still still
  | placed axis steps => exact listed.congr rfl rfl rfl rfl listed.eventful
  | @queued b _ _ pushed =>
      obtain ⟨eventful, _, _, rfl⟩ := BlockQueue.push_eq_ok_iff.mp pushed
      apply listed.replanned
      intro b' member
      rcases List.mem_append.mp member with old | new
      · exact listed.eventful b' old
      · rwa [List.mem_singleton.mp new]

protected theorem fresh (settings : Settings) (hardware : H) {q : BlockQueue capacity}
    (eventful : ∀ b ∈ q.blocks, b.events ≠ 0) :
    Listed settings (Machine.fresh hardware q) { tail := q.tail } 0 :=
  reset settings { hardware := hardware, planner := q } eventful

theorem restarted (listed : Listed settings m w first) (still : Still m.reset m') :
    Listed settings m' { tail := m.planner.tail } 0 :=
  (reset settings m listed.eventful).still still

theorem perform {op : Operation} {reply : Reply} (listed : Listed rig.settings m w first)
    (goesOn : op.restarts = false) (notTicking : op ≠ .tick)
    (performed : m.perform rig op = .ok (reply, m')) :
    ∃ w' : BlockQueue capacity, Listed rig.settings m' w' first ∧ w'.tail = w.tail ∧
      w.blocks <+: w'.blocks ∧ ∀ b ∈ w'.blocks, b ∈ w.blocks ∨ b ∈ m.planner.blocks := by
  by_cases slicing : op = .prepareSegments
  · subst slicing
    obtain ⟨p, count, filled, rfl⟩ := prepareSegments_performed performed
    exact listed.fill filled
  have same (kept : Listed rig.settings m' w first) :
      ∃ w' : BlockQueue capacity, Listed rig.settings m' w' first ∧ w'.tail = w.tail ∧
        w.blocks <+: w'.blocks ∧ ∀ b ∈ w'.blocks, b ∈ w.blocks ∨ b ∈ m.planner.blocks :=
    ⟨w, kept, rfl, List.prefix_rfl, fun _ => Or.inl⟩
  cases keeps : op.keepsBlocks with
  | true =>
      have interlude := perform_interlude keeps goesOn slicing notTicking performed
      exact same (listed.interlude interlude)
  | false =>
      cases performs performed with
      | discardBlock =>
          refine same (listed.replanned _ ?_)
          rw [BlockQueue.blocks_discard]
          exact fun b member => listed.eventful b (List.mem_of_mem_tail member)
      | clearBlocks => exact same (listed.replanned _ (by simp [BlockQueue.clear]))
      | _ => contradiction

end Listed

end StepPulse
