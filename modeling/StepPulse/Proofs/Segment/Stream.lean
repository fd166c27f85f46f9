import StepPulse.Proofs.Segment.Partition

/-! Queued segments and what is still to be cut, as one stream of stretches. -/

namespace StepPulse

/-- Blocks as they are taken up. The place to decelerate depends on the block that follows. -/
def jobs : List Block → List Job
  | [] => []
  | b :: later =>
    let exitSquared := (later.head?.map Block.entrySquared).getD 0.0
    ⟨b, (b.decelerateAfter exitSquared).toOption.getD 0⟩ :: jobs later

namespace Job

def stream (sizing : Sizing) (settings : Settings) (first : Nat) : List Job → List Stretch
  | [] => []
  | job :: later =>
    job.partitionFrom sizing settings first ++ later.flatMap (partition sizing settings)

variable {sizing : Sizing} {settings : Settings}

theorem stream_zero (later : List Job) :
    stream sizing settings 0 later = later.flatMap (partition sizing settings) := by
  cases later with
  | nil => rfl
  | cons job later => rw [stream, List.flatMap_cons, partition]

theorem stream_within {position : Nat} {job : Job} {later : List Job}
    (more : position + job.stepsAt sizing settings position < job.events) :
    stream sizing settings position (job :: later) =
      job.stretchAt sizing settings position ::
        stream sizing settings (position + job.stepsAt sizing settings position) (job :: later) := by
  rw [stream, stream, partitionFrom, if_pos more]
  rfl

theorem stream_last {position : Nat} {job : Job} {later : List Job}
    (last : position + job.stepsAt sizing settings position = job.events) :
    stream sizing settings position (job :: later) =
      job.stretchAt sizing settings position :: stream sizing settings 0 later := by
  rw [stream, partitionFrom, if_neg (Nat.not_lt.mpr (Nat.le_of_eq last.symm)), stream_zero]
  rfl

end Job

theorem getElem?_jobs (blocks : List Block) (i : Nat) :
    (jobs blocks)[i]? = blocks[i]?.map fun b =>
      ⟨b, (b.decelerateAfter ((blocks[i + 1]?.map Block.entrySquared).getD 0.0)).toOption.getD 0⟩ := by
  induction blocks generalizing i with
  | nil => simp [jobs]
  | cons b later ih =>
      cases i with
      | zero => simp [jobs, List.head?_eq_getElem?]
      | succ i => simp [jobs, ih]

theorem BlockQueue.job_found {capacity : Nat} {q : BlockQueue capacity} {j : Nat} {b : Block}
    {breakpoint : UInt32} (fits : j + 1 < UInt64.size)
    (found : q.block? (q.tail + UInt64.ofNat j) = some b)
    (broken : q.breakpoint (q.tail + UInt64.ofNat j) = .ok breakpoint) :
    (jobs q.blocks)[j]? = some ⟨b, breakpoint⟩ := by
  have next : q.tail + UInt64.ofNat j + 1 = q.tail + UInt64.ofNat (j + 1) := by
    simp [UInt64.add_assoc]
  rw [BlockQueue.breakpoint, found] at broken
  simp only [exitSquared, next, q.block?_add fits] at broken
  rw [q.block?_add (Nat.lt_of_succ_lt fits)] at found
  rw [getElem?_jobs, found, Option.map_some, broken]
  rfl

/-- Queued segments, what is left of the block in hand from a position on, and the blocks behind it
are the stream of the planner's blocks; `first` events of the front block lie before the ring. -/
structure Streams (sizing : Sizing) (settings : Settings) {capacity : Nat}
    (q : BlockQueue capacity) (p : Pipeline) (first position : Nat) : Prop where
  stream : p.segments.toList.map Segment.stretch ++
      Job.stream sizing settings position ((jobs q.blocks).drop (endings p.segments.toList)) =
    Job.stream sizing settings first (jobs q.blocks)
  inHand : p.preparing = true → ∃ job later,
    (jobs q.blocks).drop (endings p.segments.toList) = job :: later ∧ position < job.events ∧
      p.inHand = job.entryAt settings position
  free : p.preparing = false → position = 0

namespace Streams

variable {sizing : Sizing} {settings : Settings} {capacity : Nat} {q : BlockQueue capacity}
  {p p' taken : Pipeline} {first position : Nat}

protected theorem reset (sizing : Sizing) (settings : Settings) (q : BlockQueue capacity)
    (p : Pipeline) : Streams sizing settings q (p.reset q.tail) 0 0 := by
  have empty : (p.reset q.tail).segments.toList = [] := SegmentRing.toList_clear _
  constructor
  · rw [empty]
    rfl
  · exact nofun
  · intro _
    rfl

theorem takesUp (streams : Streams sizing settings q p first position)
    (aligned : Aligned settings q p first)
    (takes : Pipeline.TakesUp q.source settings p taken) :
    Streams sizing settings q taken first position := by
  cases takes with
  | goesOn => exact streams
  | @starts b breakpoint free found broken =>
      have few : endings p.segments.toList + 1 < UInt64.size :=
        Nat.lt_of_le_of_lt p.segments.endings_lt (by decide)
      have member : b ∈ q.blocks := by
        apply List.mem_of_getElem?
        rw [← aligned.block?]
        exact found
      have eventful : 0 < b.events.toNat :=
        UInt32.lt_iff_toNat_lt.mp (UInt32.pos_iff_ne_zero.mpr (aligned.eventful b member))
      rw [aligned.number] at found broken
      have here := BlockQueue.job_found few found broken
      constructor
      · exact streams.stream
      · intro _
        refine ⟨⟨b, breakpoint⟩, (jobs q.blocks).drop (endings p.segments.toList + 1), ?_, ?_, ?_⟩
        · rw [show (p.started settings b breakpoint).segments = p.segments from rfl,
            List.drop_eq_getElem?_toList_append, here]
          rfl
        · rw [streams.free free]
          exact eventful
        · rw [streams.free free]
          exact Pipeline.inHand_started_job settings ⟨b, breakpoint⟩ p
      · exact nofun

theorem emitted {segments : SegmentRing} (streams : Streams sizing settings q p first position)
    (aligned : Aligned settings q p first) (preparing : p.preparing = true)
    (pushed : p.segments.push? (p.nextSegment sizing settings) = some segments) :
    ∃ position', Streams sizing settings q (p.emitted sizing settings segments) first position' := by
  obtain ⟨job, later, ahead, left, hand⟩ := streams.inHand preparing
  have longer : (p.emitted sizing settings segments).segments.toList =
      p.segments.toList ++ [p.nextSegment sizing settings] :=
    SegmentRing.toList_push? aligned.ring pushed
  have stretch : (p.nextSegment sizing settings).stretch = job.stretchAt sizing settings position :=
    Pipeline.stretch_nextSegment (Nat.le_of_lt left) hand
  have ends : (p.nextSegment sizing settings).endsBlock =
      (position + job.stepsAt sizing settings position == job.events) :=
    congrArg Stretch.endsBlock stretch
  have whole := streams.stream
  rw [ahead] at whole
  have bound := job.stepsAt_le sizing settings position
  by_cases more : position + job.stepsAt sizing settings position < job.events
  · rw [beq_eq_false_iff_ne.mpr (Nat.ne_of_lt more)] at ends
    have same : endings (p.emitted sizing settings segments).segments.toList =
        endings p.segments.toList := by
      simp [longer, endings_cons, ends]
    refine ⟨position + job.stepsAt sizing settings position, ?_, fun _ => ?_, fun free => ?_⟩
    · rw [same, ahead, longer, List.map_append, List.append_assoc, ← whole, Job.stream_within more,
        ← stretch]
      rfl
    · rw [same]
      exact ⟨job, later, ahead, more, Pipeline.inHand_emitted_job segments hand⟩
    · simp [Pipeline.emitted, ends, preparing] at free
  · have last : position + job.stepsAt sizing settings position = job.events := by omega
    rw [beq_iff_eq.mpr last] at ends
    have further : endings (p.emitted sizing settings segments).segments.toList =
        endings p.segments.toList + 1 := by
      simp [longer, endings_cons, ends]
    have behind : (jobs q.blocks).drop (endings p.segments.toList + 1) = later := by
      rw [← List.tail_drop, ahead, List.tail_cons]
    refine ⟨0, ?_, fun busy => ?_, fun _ => rfl⟩
    · rw [further, behind, longer, List.map_append, List.append_assoc, ← whole, Job.stream_last last,
        ← stretch]
      rfl
    · simp [Pipeline.emitted, ends] at busy

theorem slice (streams : Streams sizing settings q p first position)
    (aligned : Aligned settings q p first)
    (sliced : p.slice q.source sizing settings = .ok (some p')) :
    ∃ position', Streams sizing settings q p' first position' := by
  obtain ⟨room, taken, segments, takes, pushed, rfl⟩ := Pipeline.slice_eq_some sliced
  exact (streams.takesUp aligned takes).emitted (aligned.takesUp room takes) takes.preparing pushed

theorem fill {room count : Nat} (streams : Streams sizing settings q p first position)
    (aligned : Aligned settings q p first)
    (filled : p.fill q.source sizing settings room = .ok (p', count)) :
    ∃ position', Streams sizing settings q p' first position' := by
  have kept := Pipeline.fill_keeps
    (fun p => Aligned settings q p first ∧ ∃ position, Streams sizing settings q p first position)
    (fun ⟨aligned, _, streams⟩ sliced => ⟨aligned.slice sliced, streams.slice aligned sliced⟩)
    ⟨aligned, position, streams⟩ filled
  exact kept.2

theorem front {s : Segment} {segments : List Segment}
    (streams : Streams sizing settings q p first position)
    (queued : p.segments.toList = s :: segments) :
    ∃ job later, jobs q.blocks = job :: later ∧
      s.stretch = job.stretchAt sizing settings first := by
  have whole := streams.stream
  rw [queued, List.map_cons, List.cons_append] at whole
  cases found : jobs q.blocks with
  | nil =>
      rw [found] at whole
      contradiction
  | cons job later =>
      rw [found, Job.stream, Job.partitionFrom, List.cons_append] at whole
      exact ⟨job, later, rfl, (List.cons.inj whole).1⟩

theorem advance {s : Segment} {segments : List Segment}
    (streams : Streams sizing settings q p first position)
    (aligned : Aligned settings q p first) (queued : p.segments.toList = s :: segments) :
    Streams sizing settings (if s.endsBlock then q.discard else q)
      { p with segments := p.segments.advance }
      (if s.endsBlock then 0 else first + s.steps.toNat) position := by
  have left : p.segments.advance.toList = segments := by
    rw [SegmentRing.toList_advance aligned.ring, queued, List.tail_cons]
  obtain ⟨b, blocks, slot, planned, cut⟩ := aligned.front queued
  obtain ⟨job, later, found, stretch⟩ := streams.front queued
  have same : job.block = b ∧ jobs blocks = later := by
    rw [planned, jobs] at found
    obtain ⟨rfl, rest⟩ := List.cons.inj found
    exact ⟨rfl, rest⟩
  -- The front segment is the first stretch of the stream, which goes on behind it.
  have steps : s.steps.toNat = job.stepsAt sizing settings first := congrArg Stretch.steps stretch
  have whole := streams.stream
  have inHand := streams.inHand
  rw [queued, endings_cons, found] at whole inHand
  by_cases ends : s.endsBlock = true
  · rw [if_pos ends, if_pos ends]
    rw [if_pos ends, List.drop_succ_cons] at whole inHand
    have last : first + job.stepsAt sizing settings first = job.events := by
      rw [← steps, Job.events, same.1]
      exact cut.ends.mp ends
    have shorter : q.discard.blocks = blocks := by
      rw [BlockQueue.blocks_discard, planned, List.tail_cons]
    rw [Job.stream_last last, List.map_cons, List.cons_append] at whole
    constructor
    · rw [shorter, same.2, left]
      exact (List.cons.inj whole).2
    · rw [shorter, same.2, left]
      exact inHand
    · exact streams.free
  · rw [if_neg ends, if_neg ends]
    rw [if_neg ends, Nat.add_zero] at whole inHand
    have more : first + job.stepsAt sizing settings first < job.events := by
      rw [← steps, Job.events, same.1]
      exact Nat.lt_of_le_of_ne cut.within fun last => ends (cut.ends.mpr last)
    rw [Job.stream_within more, List.map_cons, List.cons_append] at whole
    constructor
    · rw [found, left, steps]
      exact (List.cons.inj whole).2
    · rw [found, left]
      exact inHand
    · exact streams.free

end Streams

end StepPulse
