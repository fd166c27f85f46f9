import StepPulse.Proofs.Segment.Layout

/-! What was cut from which block, noted beside the pipeline and never read by it. -/

namespace StepPulse

structure Origin where
  number : UInt64
  block : Block
  deriving DecidableEq, Repr

structure Provenance where
  queued : List Origin := []
  inHand : Option Origin := none
  deriving DecidableEq, Repr

namespace Provenance

/-- The block that a turn of slicing cuts from. -/
def cutting (source : BlockSource) (p : Pipeline) (v : Provenance) : Option Origin :=
  if p.preparing then v.inHand else (source.block? p.number).map (Origin.mk p.number)

def slice (source : BlockSource) (p : Pipeline) (v : Provenance) : Provenance :=
  { queued := v.queued ++ (cutting source p v).toList, inHand := cutting source p v }

def fill (source : BlockSource) (sizing : Sizing) (settings : Settings) :
    Nat → Pipeline → Provenance → Provenance
  | 0, _, v => v
  | room + 1, p, v =>
    match p.slice source sizing settings with
    | .ok (some next) => fill source sizing settings room next (v.slice source p)
    | _ => v

def keep (count : Nat) (v : Provenance) : Provenance :=
  { v with queued := v.queued.drop (v.queued.length - count) }

@[simp] theorem queued_keep_zero (v : Provenance) : (v.keep 0).queued = [] := by simp [keep]

end Provenance

/-- The blocks to which queued segments belong by their place in the ring, the first of them to the
block of the given number. -/
def owners : UInt64 → List Segment → List Block → List Origin
  | number, s :: segments, b :: blocks =>
    ⟨number, b⟩ ::
      if s.endsBlock then owners (number + 1) segments blocks
      else owners number segments (b :: blocks)
  | _, _, _ => []

section Owners

variable {entries : SlicedBlockRing} {settings : Settings} {rest : Nat → Nat → List Block → Prop}
  {slot first : Nat} {segments : List Segment} {blocks : List Block}

theorem length_owners (lays : Lays entries settings rest slot first segments blocks)
    (number : UInt64) : (owners number segments blocks).length = segments.length := by
  induction lays generalizing number with
  | nil => rw [owners.eq_def]; rfl
  | inside _ open_ _ ih =>
      rw [owners, open_, if_neg Bool.false_ne_true, List.length_cons, List.length_cons, ih]
  | last _ ends _ ih =>
      rw [owners, if_pos ends, List.length_cons, List.length_cons, ih]

theorem owners_append_blocks (lays : Lays entries settings rest slot first segments blocks)
    (number : UInt64) (more : List Block) :
    owners number segments (blocks ++ more) = owners number segments blocks := by
  induction lays generalizing number with
  | nil => rw [owners.eq_def, owners.eq_def]
  | inside _ open_ _ ih =>
      have later := ih number
      rw [List.cons_append] at later
      rw [List.cons_append, owners, owners, open_, if_neg Bool.false_ne_true,
        if_neg Bool.false_ne_true, later]
  | last _ ends _ ih => rw [List.cons_append, owners, owners, if_pos ends, if_pos ends, ih]

theorem owners_append_segment (lays : Lays entries settings rest slot first segments blocks)
    (number : UInt64) {b : Block} (at_end : blocks[endings segments]? = some b) (s : Segment) :
    owners number (segments ++ [s]) blocks =
      owners number segments blocks ++ [⟨number + UInt64.ofNat (endings segments), b⟩] := by
  induction lays generalizing number with
  | @nil _ _ blocks _ =>
      cases blocks with
      | nil => contradiction
      | cons b' blocks =>
          obtain rfl := Option.some.inj at_end
          have none_left : owners number [] (b' :: blocks) = [] := by rw [owners.eq_def]
          rw [none_left, List.nil_append, List.nil_append, owners]
          cases s.endsBlock <;> simp [owners.eq_def]
  | inside _ open_ _ ih =>
      rw [endings_cons, open_] at at_end
      rw [List.cons_append, owners, owners, open_, if_neg Bool.false_ne_true,
        if_neg Bool.false_ne_true, ih number at_end, List.cons_append, endings_cons, open_]
      rfl
  | @last _ _ s' segments _ blocks _ ends _ ih =>
      rw [endings_cons, if_pos ends, List.getElem?_cons_succ] at at_end
      have further : number + 1 + UInt64.ofNat (endings segments) =
          number + UInt64.ofNat (endings segments + 1) := by
        rw [UInt64.ofNat_add, UInt64.add_assoc, UInt64.add_comm 1]
        rfl
      rw [List.cons_append, owners, owners, if_pos ends, if_pos ends, ih _ at_end,
        List.cons_append, endings_cons, if_pos ends, further]

theorem getElem?_owners (lays : Lays entries settings rest slot first segments blocks)
    (number : UInt64) {i : Nat} {o : Origin}
    (owned : (owners number segments blocks)[i]? = some o) :
    o.number = number + UInt64.ofNat (endings (segments.take i)) ∧
      blocks[endings (segments.take i)]? = some o.block := by
  induction lays generalizing number i with
  | nil => rw [owners.eq_def] at owned; contradiction
  | inside _ open_ _ ih =>
      rw [owners, open_, if_neg Bool.false_ne_true] at owned
      cases i with
      | zero =>
          obtain rfl := Option.some.inj owned
          simp
      | succ i =>
          rw [List.take_succ_cons, endings_cons, open_]
          exact ih number owned
  | @last _ _ s' segments _ blocks _ ends _ ih =>
      rw [owners, if_pos ends] at owned
      cases i with
      | zero =>
          obtain rfl := Option.some.inj owned
          simp
      | succ i =>
          obtain ⟨numbered, found⟩ := ih (number + 1) owned
          rw [List.take_succ_cons, endings_cons, if_pos ends]
          refine ⟨?_, found⟩
          rw [numbered, UInt64.ofNat_add, UInt64.add_assoc, UInt64.add_comm 1]
          rfl

theorem rates_owners (lays : Lays entries settings rest slot first segments blocks)
    (number : UInt64) {i : Nat} {s : Segment} {o : Origin} (queued : segments[i]? = some s)
    (owned : (owners number segments blocks)[i]? = some o) :
    (entries.get s.slot).rates = Rates.ofBlock o.block settings := by
  induction lays generalizing number i with
  | nil => contradiction
  | inside cut open_ _ ih =>
      rw [owners, open_, if_neg Bool.false_ne_true] at owned
      cases i with
      | zero =>
          obtain rfl := Option.some.inj owned
          obtain rfl := Option.some.inj queued
          rw [cut.place]
          exact cut.rates
      | succ i => exact ih number queued owned
  | last cut ends _ ih =>
      rw [owners, if_pos ends] at owned
      cases i with
      | zero =>
          obtain rfl := Option.some.inj owned
          obtain rfl := Option.some.inj queued
          rw [cut.place]
          exact cut.rates
      | succ i => exact ih (number + 1) queued owned

end Owners

/-- The provenance is what the positions of planner, ring and slicing make of it. -/
structure Traced {capacity : Nat} (q : BlockQueue capacity) (p : Pipeline) (v : Provenance) :
    Prop where
  queued : v.queued = owners q.tail p.segments.toList q.blocks
  inHand : p.preparing = true →
    ∃ b, v.inHand = some ⟨p.number, b⟩ ∧ q.block? p.number = some b

namespace Traced

variable {settings : Settings} {sizing : Sizing} {capacity : Nat} {q q' : BlockQueue capacity}
  {p p' : Pipeline} {v : Provenance} {first : Nat}

theorem push {b : Block} {number : UInt64} (traced : Traced q p v)
    (aligned : Aligned settings q p first) (pushed : q.push b = .ok (number, q')) :
    Traced q' p v := by
  have later := aligned.push pushed
  obtain ⟨_, _, _, rfl⟩ := BlockQueue.push_eq_ok_iff.mp pushed
  obtain ⟨slot, _, lays⟩ := aligned.lays
  constructor
  · rw [traced.queued]
    exact (owners_append_blocks lays _ _).symm
  · intro preparing
    obtain ⟨b', noted, found⟩ := traced.inHand preparing
    refine ⟨b', noted, ?_⟩
    rw [aligned.block?] at found
    rw [later.block?]
    obtain ⟨bound, _⟩ := List.getElem?_eq_some_iff.mp found
    exact (List.getElem?_append_left bound).trans found

theorem cutting (traced : Traced q p v) {taken : Pipeline}
    (takes : Pipeline.TakesUp q.source settings p taken) :
    ∃ b, v.cutting q.source p = some ⟨p.number, b⟩ ∧ q.block? p.number = some b ∧
      taken.number = p.number := by
  cases takes with
  | goesOn preparing =>
      obtain ⟨b, noted, found⟩ := traced.inHand preparing
      refine ⟨b, ?_, found, rfl⟩
      rw [Provenance.cutting, if_pos preparing, noted]
  | starts free found broken =>
      refine ⟨_, ?_, found, rfl⟩
      rw [Provenance.cutting, if_neg (Bool.eq_false_iff.mp free), found]
      rfl

theorem slice (traced : Traced q p v) (aligned : Aligned settings q p first)
    (sliced : p.slice q.source sizing settings = .ok (some p')) :
    Traced q p' (v.slice q.source p) := by
  obtain ⟨room, taken, segments, takes, pushed, rfl⟩ := Pipeline.slice_eq_some sliced
  obtain ⟨b, cutting, found, number⟩ := traced.cutting takes
  obtain ⟨slot, _, lays⟩ := aligned.lays
  constructor
  · rw [takes.segments] at pushed
    have longer := SegmentRing.toList_push? aligned.ring pushed
    have at_end := found
    rw [aligned.block?] at at_end
    show v.queued ++ (v.cutting q.source p).toList = owners q.tail segments.toList q.blocks
    rw [longer, owners_append_segment lays _ at_end, cutting, traced.queued, aligned.number]
    rfl
  · intro preparing
    refine ⟨b, ?_⟩
    have open_ : (taken.nextSegment sizing settings).endsBlock = false := by
      cases ends : (taken.nextSegment sizing settings).endsBlock with
      | false => rfl
      | true => simp [Pipeline.emitted, ends] at preparing
    have same : (taken.emitted sizing settings segments).number = p.number := by
      rw [← number]
      simp [Pipeline.emitted, open_]
    rw [same]
    exact ⟨cutting, found⟩

theorem fill {room count : Nat} (traced : Traced q p v) (aligned : Aligned settings q p first)
    (filled : p.fill q.source sizing settings room = .ok (p', count)) :
    Traced q p' (v.fill q.source sizing settings room p) := by
  induction room generalizing p v count with
  | zero =>
      obtain ⟨rfl, rfl⟩ := Prod.mk.inj (Except.ok.inj filled)
      exact traced
  | succ room ih =>
      rw [Pipeline.fill_succ] at filled
      rw [Provenance.fill]
      split at filled
      · contradiction
      · next sliced =>
        obtain ⟨rfl, rfl⟩ := Prod.mk.inj (Except.ok.inj filled)
        rw [sliced]
        exact traced
      · next next sliced =>
        split at filled
        · contradiction
        · next filled' count' rest =>
          obtain ⟨rfl, rfl⟩ := Prod.mk.inj (Except.ok.inj filled)
          rw [sliced]
          exact ih (traced.slice aligned sliced) (aligned.slice sliced) rest

theorem keep_all (traced : Traced q p v) (aligned : Aligned settings q p first) :
    v.keep p.segments.toList.length = v := by
  obtain ⟨slot, _, lays⟩ := aligned.lays
  have length := length_owners lays q.tail
  rw [← traced.queued] at length
  rw [Provenance.keep, length, Nat.sub_self]
  rfl

theorem reset (p : Pipeline) (q : BlockQueue capacity) {v : Provenance} (empty : v.queued = []) :
    Traced q (p.reset q.tail) v := by
  constructor
  · rw [show (p.reset q.tail).segments.toList = [] from SegmentRing.toList_clear _, owners.eq_def]
    exact empty
  · exact nofun

theorem advance {s : Segment} {segments : List Segment} (traced : Traced q p v)
    (aligned : Aligned settings q p first) (queued : p.segments.toList = s :: segments) :
    Traced (if s.endsBlock then q.discard else q) { p with segments := p.segments.advance }
      (v.keep p.segments.advance.toList.length) := by
  have left : p.segments.advance.toList = segments := by
    rw [SegmentRing.toList_advance aligned.ring, queued, List.tail_cons]
  have later := aligned.advance queued
  have number := aligned.block?
  have number' := later.block?
  obtain ⟨b, blocks, _, planned, _⟩ := aligned.front queued
  obtain ⟨slot, _, lays⟩ := aligned.lays
  have length := length_owners lays q.tail
  have owned := traced.queued
  have dropped : (v.keep segments.length).queued = v.queued.drop 1 := by
    rw [← owned, queued, List.length_cons] at length
    rw [Provenance.keep, length, Nat.add_sub_cancel_left]
  rw [queued, planned, owners] at owned
  by_cases ends : s.endsBlock = true
  · have shorter := BlockQueue.discard_of_planned planned
    rw [if_pos ends] at owned number' ⊢
    constructor
    · rw [left, dropped, owned, shorter]
      rfl
    · intro preparing
      obtain ⟨b', noted, found⟩ := traced.inHand preparing
      refine ⟨b', noted, ?_⟩
      rw [number, queued, planned, endings_cons, if_pos ends, List.getElem?_cons_succ] at found
      apply number'.trans
      rw [left, shorter]
      exact found
  · rw [if_neg ends] at owned ⊢
    constructor
    · rw [left, dropped, owned, planned]
      rfl
    · exact traced.inHand

end Traced

end StepPulse
