import StepPulse.Proofs.Segment.Slicing

/-!
How queued segments lie over the planner's blocks. Read from the front of the ring, segments cover
the front block from the events already executed to its last one, then the next block from its
first event, and so on. All segments of a block refer to one entry of the data ring, and the entries
of successive blocks follow each other around it. Behind the last segment lies what slicing has in
hand.
-/

namespace StepPulse

def endings (segments : List Segment) : Nat := segments.countP Segment.endsBlock

@[simp] theorem endings_nil : endings [] = 0 := rfl

theorem endings_cons (s : Segment) (segments : List Segment) :
    endings (s :: segments) = endings segments + if s.endsBlock then 1 else 0 := by
  rw [endings, endings, List.countP_cons]

@[simp] theorem endings_append (front back : List Segment) :
    endings (front ++ back) = endings front + endings back := List.countP_append

theorem endings_le (segments : List Segment) : endings segments ≤ segments.length :=
  List.countP_le_length

theorem SegmentRing.endings_lt (r : SegmentRing) : endings r.toList < ringSize := by
  apply Nat.lt_of_le_of_lt (endings_le _)
  rw [length_toList]
  exact r.length_lt

structure CutFrom (entries : SlicedBlockRing) (settings : Settings) (slot first : Nat) (b : Block)
    (s : Segment) : Prop where
  place : s.slot = slot
  rates : (entries.get slot).rates = Rates.ofBlock b settings
  positive : 0 < s.steps.toNat
  within : first + s.steps.toNat ≤ b.events.toNat
  ends : s.endsBlock = true ↔ first + s.steps.toNat = b.events.toNat

/-- Segments lie over blocks, from an event of the first block on; what lies behind the last segment
is left to `rest`. -/
inductive Lays (entries : SlicedBlockRing) (settings : Settings)
    (rest : Nat → Nat → List Block → Prop) : Nat → Nat → List Segment → List Block → Prop
  | nil {slot first : Nat} {blocks : List Block} :
      rest slot first blocks → Lays entries settings rest slot first [] blocks
  | inside {slot first : Nat} {s : Segment} {segments : List Segment} {b : Block}
      {blocks : List Block} :
      CutFrom entries settings slot first b s → s.endsBlock = false →
      Lays entries settings rest slot (first + s.steps.toNat) segments (b :: blocks) →
      Lays entries settings rest slot first (s :: segments) (b :: blocks)
  | last {slot first : Nat} {s : Segment} {segments : List Segment} {b : Block}
      {blocks : List Block} :
      CutFrom entries settings slot first b s → s.endsBlock = true →
      Lays entries settings rest (SegmentRing.after slot) 0 segments blocks →
      Lays entries settings rest slot first (s :: segments) (b :: blocks)

namespace Lays

variable {entries entries' : SlicedBlockRing} {settings : Settings}
  {rest rest' : Nat → Nat → List Block → Prop} {slot first : Nat} {segments : List Segment}
  {blocks : List Block}

theorem extend (more : List Block) (further : List Segment)
    (lays : Lays entries settings rest slot first segments blocks)
    (kept : ∀ s ∈ segments, (entries'.get s.slot).rates = (entries.get s.slot).rates)
    (onwards : ∀ {slot first blocks}, rest slot first blocks →
      Lays entries' settings rest' slot first further (blocks ++ more)) :
    Lays entries' settings rest' slot first (segments ++ further) (blocks ++ more) := by
  induction lays with
  | nil last => exact onwards last
  | @inside slot first s segments b blocks cut open_ _ ih =>
      have same := kept s (List.mem_cons_self ..)
      rw [cut.place] at same
      exact .inside { cut with rates := same.trans cut.rates } open_
        (ih fun s member => kept s (List.mem_cons_of_mem _ member))
  | @last slot first s segments b blocks cut ends _ ih =>
      have same := kept s (List.mem_cons_self ..)
      rw [cut.place] at same
      exact .last { cut with rates := same.trans cut.rates } ends
        (ih fun s member => kept s (List.mem_cons_of_mem _ member))

theorem carry (lays : Lays entries settings rest slot first segments blocks)
    (kept : ∀ s ∈ segments, (entries'.get s.slot).rates = (entries.get s.slot).rates)
    (onwards : ∀ {slot first blocks}, rest slot first blocks → rest' slot first blocks) :
    Lays entries' settings rest' slot first segments blocks := by
  have ended : ∀ {slot first blocks}, rest slot first blocks →
      Lays entries' settings rest' slot first [] (blocks ++ []) := by
    intro slot first blocks last
    rw [List.append_nil]
    exact .nil (onwards last)
  have same := lays.extend [] [] kept ended
  rwa [List.append_nil, List.append_nil] at same

/-- Where the last segment ends: as many blocks and entries further as blocks end on the way. -/
theorem located (lays : Lays entries settings rest slot first segments blocks)
    (bound : slot < ringSize) :
    Lays entries settings
      (fun slot' first' blocks' => rest slot' first' blocks' ∧
        slot' = (slot + endings segments) % ringSize ∧
        blocks' = blocks.drop (endings segments)) slot first segments blocks := by
  induction lays with
  | nil last => exact .nil ⟨last, (Nat.mod_eq_of_lt bound).symm, rfl⟩
  | inside cut open_ _ ih =>
      apply Lays.inside cut open_
      simpa only [endings_cons, open_, Bool.false_eq_true, if_false, Nat.add_zero] using ih bound
  | @last slot first s segments b blocks cut ends _ ih =>
      apply Lays.last cut ends
      have around : (SegmentRing.after slot + endings segments) % ringSize =
          (slot + (endings segments + 1)) % ringSize := by
        simp only [SegmentRing.after, ringSize]
        omega
      simpa only [endings_cons, ends, if_true, around, List.drop_succ_cons] using
        ih (mod_ringSize_lt _)

theorem at_end (lays : Lays entries settings rest slot first segments blocks) :
    ∃ slot' first' blocks', rest slot' first' blocks' := by
  induction lays with
  | nil last => exact ⟨_, _, _, last⟩
  | inside _ _ _ ih => exact ih
  | last _ _ _ ih => exact ih

theorem endings_pos (lays : Lays entries settings rest slot first segments blocks)
    (whole : ∀ {slot first blocks}, rest slot first blocks → first = 0) (begun : 0 < first) :
    0 < endings segments := by
  induction lays with
  | nil last => exact absurd (whole last) (Nat.ne_of_gt begun)
  | inside _ _ _ ih =>
      have later := ih (by omega)
      rw [endings_cons]
      omega
  | last _ ends _ _ =>
      rw [endings_cons, if_pos ends]
      omega

theorem slot_of_mem (lays : Lays entries settings rest slot first segments blocks)
    (whole : ∀ {slot first blocks}, rest slot first blocks → first = 0)
    (bound : slot < ringSize) {s : Segment} (member : s ∈ segments) :
    ∃ j < endings segments, s.slot = (slot + j) % ringSize := by
  induction lays with
  | nil => contradiction
  | @inside slot first s' segments b blocks cut open_ later ih =>
      rw [endings_cons]
      rcases List.mem_cons.mp member with rfl | member
      · -- The block goes on, so it comes to its end among the later segments.
        have begun : 0 < first + s.steps.toNat := Nat.add_pos_right _ cut.positive
        have positive := later.endings_pos whole begun
        refine ⟨0, by omega, ?_⟩
        rw [cut.place, Nat.add_zero, Nat.mod_eq_of_lt bound]
      · obtain ⟨j, less, place⟩ := ih bound member
        exact ⟨j, by omega, place⟩
  | @last slot first s' segments b blocks cut ends _ ih =>
      rw [endings_cons, if_pos ends]
      rcases List.mem_cons.mp member with rfl | member
      · refine ⟨0, by omega, ?_⟩
        rw [cut.place, Nat.add_zero, Nat.mod_eq_of_lt bound]
      · obtain ⟨j, less, place⟩ := ih (mod_ringSize_lt _) member
        refine ⟨j + 1, by omega, ?_⟩
        rw [place]
        simp only [SegmentRing.after, ringSize]
        omega

end Lays

/-- What lies behind the last segment: the rest of a block in hand, or a block not yet begun. -/
inductive Pipeline.Rest (settings : Settings) (p : Pipeline) : Nat → Nat → List Block → Prop
  | inHand {first : Nat} {b : Block} {blocks : List Block} :
      p.preparing = true → p.inHand.rates = Rates.ofBlock b settings →
      0 < p.inHand.remaining.toNat → first + p.inHand.remaining.toNat = b.events.toNat →
      Rest settings p p.blocks.current first (b :: blocks)
  | free {blocks : List Block} :
      p.preparing = false → Rest settings p (SegmentRing.after p.blocks.current) 0 blocks

namespace Pipeline.Rest

variable {settings : Settings} {p : Pipeline} {slot first : Nat} {blocks : List Block}

theorem append (rest : Rest settings p slot first blocks) (more : List Block) :
    Rest settings p slot first (blocks ++ more) := by
  cases rest with
  | inHand preparing rates left sum => exact .inHand preparing rates left sum
  | free free => exact .free free

theorem congr {p' : Pipeline} (rest : Rest settings p slot first blocks)
    (preparing : p'.preparing = p.preparing) (entries : p'.blocks = p.blocks) :
    Rest settings p' slot first blocks := by
  have hand : p'.inHand = p.inHand := by rw [Pipeline.inHand, Pipeline.inHand, entries]
  cases rest with
  | inHand busy rates left sum =>
      rw [← entries]
      rw [← hand] at rates left sum
      exact .inHand (preparing.trans busy) rates left sum
  | free free =>
      rw [← entries]
      exact .free (preparing.trans free)

theorem whole (rest : Rest settings p slot first blocks) (free : p.preparing = false) :
    first = 0 := by
  cases rest with
  | inHand preparing => rw [preparing] at free; contradiction
  | free => rfl

end Pipeline.Rest

namespace Pipeline

variable {settings : Settings} {sizing : Sizing} {p : Pipeline} {slot first : Nat}
  {blocks : List Block}

theorem inHand_started (settings : Settings) (b : Block) (decelerateAfter : UInt32) (p : Pipeline) :
    (p.started settings b decelerateAfter).inHand =
      SlicedBlock.ofBlock b settings decelerateAfter := by
  refine (SlicedBlockRing.get_start _ _ _).trans (if_pos ?_)
  exact (Nat.mod_mod _ _).symm

theorem Rest.started {b : Block} (rest : Rest settings p slot first (b :: blocks))
    (free : p.preparing = false) (eventful : 0 < b.events.toNat) (decelerateAfter : UInt32) :
    Rest settings (p.started settings b decelerateAfter) slot first (b :: blocks) := by
  have entry := inHand_started settings b decelerateAfter p
  cases rest with
  | inHand preparing => rw [preparing] at free; contradiction
  | free =>
      refine .inHand rfl ?_ ?_ ?_
      · rw [entry]; rfl
      · rw [entry]; exact eventful
      · rw [entry, Nat.zero_add]; rfl

theorem rates_emitted (segments : SegmentRing) (index : Nat) :
    ((p.emitted sizing settings segments).blocks.get index).rates =
      (p.blocks.get index).rates := by
  have written := SlicedBlockRing.get_set p.blocks p.blocks.current index
    (p.nextCut sizing settings).1
  rw [show (p.emitted sizing settings segments).blocks.get index = _ from written]
  split
  · next same =>
    have entry : p.blocks.get index = p.inHand := by
      simp only [Pipeline.inHand, SlicedBlockRing.get, same]
    rw [entry]
    rfl
  · rfl

theorem inHand_emitted (p : Pipeline) (sizing : Sizing) (settings : Settings)
    (segments : SegmentRing) :
    (p.emitted sizing settings segments).inHand = (p.nextCut sizing settings).1 :=
  (SlicedBlockRing.get_set p.blocks p.blocks.current p.blocks.current _).trans (if_pos rfl)

theorem endsBlock_nextSegment :
    (p.nextSegment sizing settings).endsBlock = true ↔
      (p.nextCut sizing settings).1.remaining.toNat = 0 :=
  beq_iff_eq.trans UInt32.toNat_inj.symm

theorem toNat_remaining_nextCut (p : Pipeline) (sizing : Sizing) (settings : Settings) :
    (p.nextCut sizing settings).1.remaining.toNat + (p.nextCut sizing settings).2.toNat =
      p.inHand.remaining.toNat :=
  p.inHand.toNat_remaining_cut (sizing p.inHand settings)

theorem cutFrom_nextSegment {b : Block} (sizing : Sizing) (segments : SegmentRing)
    (rates : p.inHand.rates = Rates.ofBlock b settings) (left : 0 < p.inHand.remaining.toNat)
    (total : first + p.inHand.remaining.toNat = b.events.toNat) :
    CutFrom (p.emitted sizing settings segments).blocks settings p.blocks.current first b
      (p.nextSegment sizing settings) := by
  have positive := p.inHand.cut_steps_pos (sizing p.inHand settings)
    (UInt32.lt_iff_toNat_lt.mpr left)
  have sum := toNat_remaining_nextCut p sizing settings
  refine
    { place := rfl, rates := (rates_emitted segments _).trans rates
      positive := UInt32.lt_iff_toNat_lt.mp positive, within := ?_, ends := ?_ }
  · show first + (p.nextCut sizing settings).2.toNat ≤ _
    omega
  · rw [endsBlock_nextSegment]
    show _ ↔ first + (p.nextCut sizing settings).2.toNat = _
    omega

theorem Rest.emitted (segments : SegmentRing) (rest : Rest settings p slot first blocks)
    (preparing : p.preparing = true) :
    Lays (p.emitted sizing settings segments).blocks settings
      ((p.emitted sizing settings segments).Rest settings) slot first
      [p.nextSegment sizing settings] blocks := by
  cases rest with
  | free free => rw [preparing] at free; contradiction
  | @inHand _ b blocks _ rates left total =>
      have cut := cutFrom_nextSegment sizing segments rates left total
      have hand := inHand_emitted p sizing settings segments
      by_cases last : (p.nextSegment sizing settings).endsBlock = true
      · refine .last cut last (.nil (.free ?_))
        simp [Pipeline.emitted, last]
      · have open_ := Bool.eq_false_iff.mpr last
        have sum := toNat_remaining_nextCut p sizing settings
        refine .inside cut open_ (.nil (.inHand ?_ ?_ ?_ ?_))
        · simp [Pipeline.emitted, open_, preparing]
        · rw [hand, ← rates]; rfl
        · rw [hand]
          exact Nat.pos_of_ne_zero fun zero => last (endsBlock_nextSegment.mpr zero)
        · rw [hand]
          show first + (p.nextCut sizing settings).2.toNat + _ = _
          omega

end Pipeline

/-- Planner, ring and slicing belong together; `first` events of the planner's front block lie
before the ring. -/
structure Aligned (settings : Settings) {capacity : Nat} (q : BlockQueue capacity) (p : Pipeline)
    (first : Nat) : Prop where
  ring : p.segments.WellFormed
  current : p.blocks.current < ringSize
  number : p.number = q.tail + UInt64.ofNat (endings p.segments.toList)
  eventful : ∀ b ∈ q.blocks, b.events ≠ 0
  lays : ∃ slot < ringSize,
    Lays p.blocks settings (p.Rest settings) slot first p.segments.toList q.blocks

theorem BlockQueue.current?_of_planned {capacity : Nat} {q : BlockQueue capacity} {b : Block}
    {blocks : List Block} (planned : q.blocks = b :: blocks) : q.current? = some b := by
  rw [current?, planned]
  rfl

theorem BlockQueue.block?_ahead {capacity : Nat} (q : BlockQueue capacity) {j : Nat}
    (small : j < ringSize) : q.block? (q.tail + UInt64.ofNat j) = q.blocks[j]? :=
  q.block?_add (Nat.lt_trans small (by decide))

namespace Aligned

variable {settings : Settings} {sizing : Sizing} {capacity : Nat} {q q' : BlockQueue capacity}
  {p p' : Pipeline} {first : Nat}

theorem block? (aligned : Aligned settings q p first) :
    q.block? p.number = q.blocks[endings p.segments.toList]? := by
  rw [aligned.number, q.block?_ahead p.segments.endings_lt]

theorem append {b : Block} (aligned : Aligned settings q p first) (eventful : b.events ≠ 0) :
    Aligned settings ({ q with blocks := q.blocks ++ [b] } : BlockQueue capacity) p first := by
  obtain ⟨slot, bound, lays⟩ := aligned.lays
  refine
    { ring := aligned.ring, current := aligned.current, number := aligned.number
      eventful := ?_, lays := ⟨slot, bound, ?_⟩ }
  · intro b' member
    rcases List.mem_append.mp member with old | new
    · exact aligned.eventful b' old
    · rwa [List.mem_singleton.mp new]
  · have longer := lays.extend [b] [] (fun _ _ => rfl)
      (fun rest => .nil (rest.append [b]))
    rwa [List.append_nil] at longer

theorem push {b : Block} {number : UInt64} (aligned : Aligned settings q p first)
    (pushed : q.push b = .ok (number, q')) : Aligned settings q' p first := by
  obtain ⟨eventful, _, _, rfl⟩ := BlockQueue.push_eq_ok_iff.mp pushed
  exact aligned.append eventful

theorem spare (aligned : Aligned settings q p first) (room : ¬ p.segments.isFull = true)
    (free : p.preparing = false) {s : Segment} (member : s ∈ p.segments.toList) :
    SegmentRing.after p.blocks.current ≠ s.slot % ringSize := by
  obtain ⟨slot, bound, lays⟩ := aligned.lays
  obtain ⟨slot', first', blocks', ⟨rest, place, _⟩⟩ := (lays.located bound).at_end
  obtain ⟨j, less, own⟩ := lays.slot_of_mem (fun rest => rest.whole free) bound member
  have few := endings_le p.segments.toList
  have short := aligned.ring.room room
  cases rest with
  | inHand preparing => rw [preparing] at free; contradiction
  | free =>
      -- Fewer blocks end in the ring than there are entries, so that none is come around to.
      rw [place, own]
      simp only [SegmentRing.capacity, ringSize] at *
      omega

theorem started {b : Block} (aligned : Aligned settings q p first)
    (room : ¬ p.segments.isFull = true) (free : p.preparing = false)
    (at_ : q.blocks[endings p.segments.toList]? = some b) (decelerateAfter : UInt32) :
    Aligned settings q (p.started settings b decelerateAfter) first := by
  obtain ⟨slot, bound, lays⟩ := aligned.lays
  refine
    { ring := aligned.ring, current := mod_ringSize_lt _, number := aligned.number
      eventful := aligned.eventful, lays := ⟨slot, bound, ?_⟩ }
  have ahead : q.blocks.drop (endings p.segments.toList) =
      b :: q.blocks.drop (endings p.segments.toList + 1) :=
    List.drop_eq_getElem?_toList_append.trans (by rw [at_]; rfl)
  have eventful : 0 < b.events.toNat := by
    have nonzero := aligned.eventful b (List.mem_of_getElem? at_)
    exact UInt32.lt_iff_toNat_lt.mp (UInt32.pos_iff_ne_zero.mpr nonzero)
  have kept : ∀ s ∈ p.segments.toList,
      ((p.started settings b decelerateAfter).blocks.get s.slot).rates =
        (p.blocks.get s.slot).rates := by
    intro s member
    refine congrArg SlicedBlock.rates ((SlicedBlockRing.get_start _ _ _).trans (if_neg ?_))
    exact aligned.spare room free member
  apply (lays.located bound).carry kept
  rintro slot' first' blocks' ⟨rest, _, onwards⟩
  rw [onwards, ahead] at rest ⊢
  exact rest.started free eventful decelerateAfter

theorem takesUp {taken : Pipeline} (aligned : Aligned settings q p first)
    (room : ¬ p.segments.isFull = true)
    (takes : Pipeline.TakesUp q.source settings p taken) : Aligned settings q taken first := by
  cases takes with
  | goesOn => exact aligned
  | @starts b decelerateAfter free found _ =>
      refine aligned.started room free ?_ decelerateAfter
      rw [← aligned.block?]
      exact found

theorem emitted {segments : SegmentRing} (aligned : Aligned settings q p first)
    (preparing : p.preparing = true)
    (pushed : p.segments.push? (p.nextSegment sizing settings) = some segments) :
    Aligned settings q (p.emitted sizing settings segments) first := by
  obtain ⟨slot, bound, lays⟩ := aligned.lays
  have longer := SegmentRing.toList_push? aligned.ring pushed
  have onwards : ∀ {slot first blocks}, p.Rest settings slot first blocks →
      Lays (p.emitted sizing settings segments).blocks settings
        ((p.emitted sizing settings segments).Rest settings) slot first
        [p.nextSegment sizing settings] (blocks ++ []) := by
    intro slot first blocks rest
    rw [List.append_nil]
    exact rest.emitted segments preparing
  refine
    { ring := aligned.ring.push? pushed, current := aligned.current, number := ?_
      eventful := aligned.eventful, lays := ⟨slot, bound, ?_⟩ }
  · show (if (p.nextSegment sizing settings).endsBlock then p.number + 1 else p.number) =
      q.tail + UInt64.ofNat (endings segments.toList)
    rw [longer, endings_append, endings_cons, aligned.number]
    split
    · simp [UInt64.add_assoc]
    · simp
  · have lain :=
      lays.extend [] _ (fun s _ => Pipeline.rates_emitted segments s.slot) onwards
    rw [List.append_nil] at lain
    show Lays _ _ _ slot first segments.toList q.blocks
    rwa [longer]

theorem slice (aligned : Aligned settings q p first)
    (sliced : p.slice q.source sizing settings = .ok (some p')) :
    Aligned settings q p' first := by
  obtain ⟨room, taken, segments, takes, pushed, rfl⟩ := Pipeline.slice_eq_some sliced
  exact (aligned.takesUp room takes).emitted takes.preparing pushed

theorem fill {room count : Nat} (aligned : Aligned settings q p first)
    (filled : p.fill q.source sizing settings room = .ok (p', count)) :
    Aligned settings q p' first :=
  Pipeline.fill_keeps (fun p => Aligned settings q p first) (fun kept => kept.slice) aligned filled

theorem reset (p : Pipeline) (eventful : ∀ b ∈ q.blocks, b.events ≠ 0) :
    Aligned settings q (p.reset q.tail) 0 := by
  refine
    { ring := SegmentRing.WellFormed.clear _, current := Nat.zero_lt_succ _, number := ?_
      eventful := eventful, lays := ⟨1, by decide, ?_⟩ }
  · simp [Pipeline.reset, Pipeline.restart]
  · rw [show (p.reset q.tail).segments.toList = [] from SegmentRing.toList_clear _]
    exact .nil (.free rfl)

theorem front {s : Segment} {segments : List Segment} (aligned : Aligned settings q p first)
    (queued : p.segments.toList = s :: segments) :
    ∃ b blocks slot, q.blocks = b :: blocks ∧ CutFrom p.blocks settings slot first b s := by
  obtain ⟨slot, _, lays⟩ := aligned.lays
  rw [queued] at lays
  generalize q.blocks = blocks at lays
  cases lays with
  | inside cut => exact ⟨_, _, _, rfl, cut⟩
  | last cut => exact ⟨_, _, _, rfl, cut⟩

theorem advance {s : Segment} {segments : List Segment} (aligned : Aligned settings q p first)
    (queued : p.segments.toList = s :: segments) :
    Aligned settings (if s.endsBlock then q.discard else q)
      { p with segments := p.segments.advance }
      (if s.endsBlock then 0 else first + s.steps.toNat) := by
  have left : p.segments.advance.toList = segments := by
    rw [SegmentRing.toList_advance aligned.ring, queued, List.tail_cons]
  have number := aligned.number
  rw [queued, endings_cons] at number
  have eventful := aligned.eventful
  obtain ⟨slot, bound, lays⟩ := aligned.lays
  rw [queued] at lays
  by_cases ends : s.endsBlock = true
  · -- The block goes with its last segment, and the next one lies in the ring from its first event.
    rw [if_pos ends, if_pos ends]
    rw [if_pos ends] at number
    generalize blocks : q.blocks = blocks at lays eventful
    cases lays with
    | inside _ open_ => rw [ends] at open_; contradiction
    | @last _ _ _ _ b blocks' _ _ later =>
        rw [BlockQueue.discard_of_planned blocks]
        refine
          { ring := aligned.ring.advance, current := aligned.current, number := ?_
            eventful := fun b' member => eventful b' (List.mem_cons_of_mem _ member)
            lays := ⟨_, mod_ringSize_lt (slot + 1), ?_⟩ }
        · show p.number = _
          rw [number, left, UInt64.ofNat_add, UInt64.add_comm _ (UInt64.ofNat 1),
            ← UInt64.add_assoc]
          rfl
        · rw [left]
          exact later.carry (fun _ _ => rfl) fun rest => rest.congr rfl rfl
  · rw [if_neg ends, if_neg ends]
    rw [if_neg ends, Nat.add_zero] at number
    refine
      { ring := aligned.ring.advance, current := aligned.current, number := ?_
        eventful := eventful, lays := ⟨slot, bound, ?_⟩ }
    · show p.number = _
      rw [number, left]
    · rw [left]
      generalize q.blocks = blocks at lays
      cases lays with
      | last _ closed => exact absurd closed ends
      | inside _ _ later =>
          exact later.carry (fun _ _ => rfl) fun rest => rest.congr rfl rfl

theorem spent (aligned : Aligned settings q p first) (missing : q.block? p.number = none)
    (empty : p.segments.toList = []) : q.blocks = [] := by
  rw [aligned.block?, empty] at missing
  exact List.eq_nil_of_length_eq_zero (Nat.le_zero.mp (List.getElem?_eq_none_iff.mp missing))

end Aligned

end StepPulse
