import StepPulse.Proofs.Segment.Schedule

/-! No segment reaches across the breakpoint that was found when its block was taken up. -/

namespace StepPulse

structure Marked (job : Job) (position : Nat) (s : Segment) : Prop where
  unbroken : position < job.breakpoint.toNat →
    position + s.steps.toNat ≤ job.breakpoint.toNat
  decelerates : s.decelerates = true ↔ job.breakpoint.toNat ≤ position

/-- Segments are marked for the blocks to which they belong, from a position of the first block on;
what lies behind the last segment is left to `rest`. -/
inductive Marks (rest : Nat → List Job → Prop) : Nat → List Segment → List Job → Prop
  | nil {position : Nat} {jobs : List Job} : rest position jobs → Marks rest position [] jobs
  | inside {position : Nat} {s : Segment} {segments : List Segment} {job : Job} {jobs : List Job} :
      Marked job position s → s.endsBlock = false →
      Marks rest (position + s.steps.toNat) segments (job :: jobs) →
      Marks rest position (s :: segments) (job :: jobs)
  | last {position : Nat} {s : Segment} {segments : List Segment} {job : Job} {jobs : List Job} :
      Marked job position s → s.endsBlock = true → Marks rest 0 segments jobs →
      Marks rest position (s :: segments) (job :: jobs)

namespace Marks

variable {rest rest' : Nat → List Job → Prop} {position : Nat} {segments : List Segment}
  {jobs : List Job}

theorem extend (further : List Segment) (more : List Job) (marks : Marks rest position segments jobs)
    (onwards : ∀ {position jobs}, rest position jobs →
      Marks rest' position further (jobs ++ more)) :
    Marks rest' position (segments ++ further) (jobs ++ more) := by
  induction marks with
  | nil last => exact onwards last
  | inside marked open_ _ ih => exact .inside marked open_ ih
  | last marked ends _ ih => exact .last marked ends ih

theorem carry (marks : Marks rest position segments jobs)
    (onwards : ∀ {position jobs}, rest position jobs → rest' position jobs) :
    Marks rest' position segments jobs := by
  induction marks with
  | nil last => exact .nil (onwards last)
  | inside marked open_ _ ih => exact .inside marked open_ ih
  | last marked ends _ ih => exact .last marked ends ih

theorem at_end (marks : Marks rest position segments jobs) :
    ∃ position' jobs', rest position' jobs' ∧ jobs.length = endings segments + jobs'.length := by
  induction marks with
  | @nil position jobs last => exact ⟨position, jobs, last, by simp⟩
  | inside _ open_ _ ih =>
      obtain ⟨position', jobs', last, length⟩ := ih
      refine ⟨position', jobs', last, ?_⟩
      rwa [endings_cons, open_, if_neg Bool.false_ne_true, Nat.add_zero]
  | last _ ends _ ih =>
      obtain ⟨position', jobs', last, length⟩ := ih
      refine ⟨position', jobs', last, ?_⟩
      rw [endings_cons, if_pos ends, List.length_cons]
      omega

end Marks

inductive Pipeline.Holds (settings : Settings) (p : Pipeline) : Nat → List Job → Prop
  | block {job : Job} {position : Nat} :
      p.preparing = true → position < job.events → p.inHand = job.entryAt settings position →
      Holds settings p position [job]
  | nothing : p.preparing = false → Holds settings p 0 []

namespace Pipeline

variable {source : BlockSource} {sizing : Sizing} {settings : Settings} {p p' : Pipeline}
  {job : Job} {position : Nat}

theorem Holds.congr {jobs : List Job} (holds : p.Holds settings position jobs)
    (preparing : p'.preparing = p.preparing) (entries : p'.blocks = p.blocks) :
    p'.Holds settings position jobs := by
  have hand : p'.inHand = p.inHand := by rw [inHand, inHand, entries]
  cases holds with
  | block busy left entry => exact .block (preparing.trans busy) left (hand.trans entry)
  | nothing free => exact .nothing (preparing.trans free)

theorem marks_emitted (segments : SegmentRing) (preparing : p.preparing = true)
    (left : position < job.events) (hand : p.inHand = job.entryAt settings position) :
    Marks ((p.emitted sizing settings segments).Holds settings) position
      [p.nextSegment sizing settings] [job] := by
  have stretch : (p.nextSegment sizing settings).stretch = job.stretchAt sizing settings position :=
    stretch_nextSegment (Nat.le_of_lt left) hand
  have steps : (p.nextSegment sizing settings).steps.toNat = job.stepsAt sizing settings position :=
    congrArg Stretch.steps stretch
  have ends : (p.nextSegment sizing settings).endsBlock =
      (position + job.stepsAt sizing settings position == job.events) :=
    congrArg Stretch.endsBlock stretch
  have bound := job.stepsAt_le sizing settings position
  have marked : Marked job position (p.nextSegment sizing settings) := by
    constructor
    · rw [steps]
      exact job.stepsAt_le_breakpoint sizing settings
    · rw [show (p.nextSegment sizing settings).decelerates = _ from
        congrArg Stretch.decelerates stretch]
      exact decide_eq_true_iff
  by_cases more : position + job.stepsAt sizing settings position < job.events
  · rw [beq_eq_false_iff_ne.mpr (Nat.ne_of_lt more)] at ends
    refine .inside marked ends (.nil ?_)
    rw [steps]
    refine .block ?_ more (inHand_emitted_job segments hand)
    simp [emitted, ends, preparing]
  · rw [beq_iff_eq.mpr (by omega)] at ends
    refine .last marked ends (.nil (.nothing ?_))
    simp [emitted, ends]

theorem found_of_begins (begins : job ∈ p.begins source) :
    ∃ number, source.block? number = some job.block ∧
      source.breakpoint number = .ok job.breakpoint := by
  rw [Pipeline.begins] at begins
  split at begins
  · contradiction
  · split at begins
    · next b breakpoint found broken =>
      rw [List.mem_singleton.mp begins]
      exact ⟨p.number, found, broken⟩
    · contradiction

/-- A block is taken up with the breakpoint that is found for it then. -/
theorem found_of_takings {room : Nat} (taken : job ∈ p.takings source sizing settings room) :
    ∃ number, source.block? number = some job.block ∧
      source.breakpoint number = .ok job.breakpoint := by
  induction room generalizing p with
  | zero => contradiction
  | succ room ih =>
      rw [takings] at taken
      split at taken
      · rcases List.mem_append.mp taken with now | later
        · exact found_of_begins now
        · exact ih later
      · contradiction

theorem fill_takes (kept : Pipeline → List Job → Prop) {room count : Nat} {filled : Pipeline}
    {jobs : List Job}
    (turn : ∀ {p p' : Pipeline} {jobs : List Job}, kept p jobs →
      p.slice source sizing settings = .ok (some p') → kept p' (jobs ++ p.begins source))
    (holds : kept p jobs) (done : p.fill source sizing settings room = .ok (filled, count)) :
    kept filled (jobs ++ p.takings source sizing settings room) := by
  induction room generalizing p jobs count with
  | zero =>
      obtain ⟨rfl, _⟩ := Prod.mk.inj (Except.ok.inj done)
      rwa [takings, List.append_nil]
  | succ room ih =>
      rw [fill_succ] at done
      rw [takings]
      split at done
      · contradiction
      · next sliced =>
        obtain ⟨rfl, _⟩ := Prod.mk.inj (Except.ok.inj done)
        rwa [sliced, List.append_nil]
      · next next sliced =>
        split at done
        · contradiction
        · next filled' count' rest =>
          obtain ⟨rfl, _⟩ := Prod.mk.inj (Except.ok.inj done)
          have later := ih (turn holds sliced) rest
          rw [sliced]
          rwa [List.append_assoc] at later

end Pipeline

/-- The jobs are the front blocks of the planner, and the queued segments are marked for them;
`first` events of the front block lie before the ring. -/
structure Charted (settings : Settings) {capacity : Nat} (q : BlockQueue capacity) (p : Pipeline)
    (first : Nat) (jobs : List Job) : Prop where
  marks : Marks (p.Holds settings) first p.segments.toList jobs
  planned : ∃ ahead, q.blocks = jobs.map Job.block ++ ahead

namespace Charted

variable {sizing : Sizing} {settings : Settings} {capacity : Nat} {q q' : BlockQueue capacity}
  {p p' : Pipeline} {first : Nat} {jobs : List Job}

protected theorem reset (settings : Settings) (q : BlockQueue capacity) (p : Pipeline) :
    Charted settings q (p.reset q.tail) 0 [] := by
  constructor
  · rw [show (p.reset q.tail).segments.toList = [] from SegmentRing.toList_clear _]
    exact .nil (.nothing rfl)
  · exact ⟨q.blocks, rfl⟩

theorem push {b : Block} {number : UInt64} (charted : Charted settings q p first jobs)
    (pushed : q.push b = .ok (number, q')) : Charted settings q' p first jobs := by
  obtain ⟨_, _, _, rfl⟩ := BlockQueue.push_eq_ok_iff.mp pushed
  obtain ⟨ahead, planned⟩ := charted.planned
  constructor
  · exact charted.marks
  · refine ⟨ahead ++ [b], ?_⟩
    rw [planned, List.append_assoc]

theorem planned_started {b : Block} {breakpoint : UInt32} (charted : Charted settings q p first jobs)
    (aligned : Aligned settings q p first) (free : p.preparing = false)
    (found : q.block? p.number = some b) :
    ∃ ahead, q.blocks = (jobs ++ [(⟨b, breakpoint⟩ : Job)]).map Job.block ++ ahead := by
  obtain ⟨_, jobs', rest, length⟩ := charted.marks.at_end
  cases rest with
  | block preparing => rw [free] at preparing; contradiction
  | nothing =>
      obtain ⟨ahead, planned⟩ := charted.planned
      rw [aligned.block?, planned, List.getElem?_append_right (by simp [length])] at found
      obtain ⟨ahead', rfl⟩ : ∃ ahead', ahead = b :: ahead' := by
        cases ahead with
        | nil => simp at found
        | cons b' ahead' => exact ⟨ahead', by simpa [length] using found⟩
      exact ⟨ahead', by simp [planned]⟩

theorem slice (charted : Charted settings q p first jobs) (aligned : Aligned settings q p first)
    (sliced : p.slice q.source sizing settings = .ok (some p')) :
    Charted settings q p' first (jobs ++ p.begins q.source) := by
  obtain ⟨_, taken, segments, takes, pushed, rfl⟩ := Pipeline.slice_eq_some sliced
  have marks : Marks ((taken.emitted sizing settings segments).Holds settings) first
      (p.segments.toList ++ [taken.nextSegment sizing settings]) (jobs ++ p.begins q.source) := by
    apply charted.marks.extend
    intro position jobs' rest
    cases takes with
    | goesOn preparing =>
        cases rest with
        | nothing free => rw [preparing] at free; contradiction
        | block _ left hand =>
            rw [Pipeline.begins_of_goesOn preparing, List.append_nil]
            exact Pipeline.marks_emitted segments preparing left hand
    | @starts b breakpoint free found broken =>
        cases rest with
        | block preparing => rw [preparing] at free; contradiction
        | nothing =>
            rw [Pipeline.begins_of_starts free found broken, List.nil_append]
            have eventful := aligned.eventful b (List.mem_of_getElem? found)
            have hand := Pipeline.inHand_started_job settings ⟨b, breakpoint⟩ p
            exact Pipeline.marks_emitted segments rfl
              (UInt32.lt_iff_toNat_lt.mp (UInt32.pos_iff_ne_zero.mpr eventful)) hand
  rw [takes.segments] at pushed
  constructor
  · rwa [← SegmentRing.toList_push? aligned.ring pushed] at marks
  · cases takes with
    | goesOn preparing =>
        rw [Pipeline.begins_of_goesOn preparing, List.append_nil]
        exact charted.planned
    | starts free found broken =>
        rw [Pipeline.begins_of_starts free found broken]
        exact charted.planned_started aligned free found

theorem fill {room count : Nat} (charted : Charted settings q p first jobs)
    (aligned : Aligned settings q p first)
    (filled : p.fill q.source sizing settings room = .ok (p', count)) :
    Charted settings q p' first (jobs ++ p.takings q.source sizing settings room) := by
  have kept := Pipeline.fill_takes
    (fun p jobs => Aligned settings q p first ∧ Charted settings q p first jobs)
    (fun kept sliced => ⟨kept.1.slice sliced, kept.2.slice kept.1 sliced⟩) ⟨aligned, charted⟩ filled
  exact kept.2

theorem front {s : Segment} {segments : List Segment} (charted : Charted settings q p first jobs)
    (queued : p.segments.toList = s :: segments) :
    ∃ job later blocks, jobs = job :: later ∧ q.blocks = job.block :: blocks ∧
      Marked job first s := by
  have marks := charted.marks
  obtain ⟨ahead, planned⟩ := charted.planned
  rw [queued] at marks
  cases marks with
  | inside marked => exact ⟨_, _, _, rfl, planned, marked⟩
  | last marked => exact ⟨_, _, _, rfl, planned, marked⟩

theorem advance {s : Segment} {segments : List Segment} (charted : Charted settings q p first jobs)
    (ring : p.segments.WellFormed) (queued : p.segments.toList = s :: segments) :
    Charted settings (if s.endsBlock then q.discard else q)
      { p with segments := p.segments.advance }
      (if s.endsBlock then 0 else first + s.steps.toNat)
      (if s.endsBlock then jobs.tail else jobs) := by
  have left : p.segments.advance.toList = segments := by
    rw [SegmentRing.toList_advance ring, queued, List.tail_cons]
  have marks := charted.marks
  obtain ⟨ahead, planned⟩ := charted.planned
  have behind {position : Nat} {jobs : List Job}
      (marks : Marks (p.Holds settings) position segments jobs) :
      Marks (Pipeline.Holds settings { p with segments := p.segments.advance }) position
        p.segments.advance.toList jobs := by
    rw [left]
    exact marks.carry fun rest => rest.congr rfl rfl
  rw [queued] at marks
  cases marks with
  | inside _ open_ later =>
      simp only [open_, Bool.false_eq_true, if_false]
      exact ⟨behind later, ahead, planned⟩
  | last _ ends later =>
      simp only [ends, if_true]
      refine ⟨behind later, ahead, ?_⟩
      rw [BlockQueue.blocks_discard, planned]
      rfl

end Charted

end StepPulse
