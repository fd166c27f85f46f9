import StepPulse.Proofs.Segment.Partition

/-! Slicing cuts the partitions of its blocks under any schedule of calls and draining. -/

namespace StepPulse

/-- A pipeline with the blocks that it took up and the segments that were drained from it, both in
order. -/
structure Flow where
  pipeline : Pipeline
  taken : List Job := []
  drained : List Segment := []

inductive Visit where
  | prepare (source : BlockSource)
  | drain

namespace Pipeline

def begins (source : BlockSource) (p : Pipeline) : List Job :=
  if p.preparing then []
  else
    match source.block? p.number, source.breakpoint p.number with
    | some b, .ok breakpoint => [⟨b, breakpoint⟩]
    | _, _ => []

def takings (source : BlockSource) (sizing : Sizing) (settings : Settings) :
    Nat → Pipeline → List Job
  | 0, _ => []
  | room + 1, p =>
    match p.slice source sizing settings with
    | .ok (some next) => p.begins source ++ takings source sizing settings room next
    | _ => []

end Pipeline

namespace Flow

def opening (start : UInt64) : Flow := { pipeline := { number := start } }

def visit (sizing : Sizing) (settings : Settings) (f : Flow) : Visit → Except ClampFault Flow
  | .prepare source =>
    (f.pipeline.prepare source sizing settings).map fun (p, _) =>
      { f with
        pipeline := p
        taken := f.taken ++
          f.pipeline.takings source sizing settings SegmentRing.capacity }
  | .drain =>
    .ok
      { f with
        pipeline := { f.pipeline with segments := f.pipeline.segments.advance }
        drained := f.drained ++ f.pipeline.segments.peek?.toList }

def run (sizing : Sizing) (settings : Settings) : List Visit → Flow → Except ClampFault Flow
  | [], f => .ok f
  | visit :: visits, f =>
    match f.visit sizing settings visit with
    | .error fault => .error fault
    | .ok next => run sizing settings visits next

def emitted (f : Flow) : List Segment := f.drained ++ f.pipeline.segments.toList

end Flow

/-- What is still to be cut of the blocks taken up: nothing, or the rest of the last one. -/
inductive Pipeline.Uncut (sizing : Sizing) (settings : Settings) (start : UInt64) (p : Pipeline) :
    List Job → List Stretch → Prop
  | nothing {taken : List Job} :
      p.preparing = false → p.number = start + UInt64.ofNat taken.length →
      Uncut sizing settings start p taken []
  | rest {earlier : List Job} {job : Job} {position : Nat} :
      p.preparing = true → p.number = start + UInt64.ofNat earlier.length →
      position < job.events → p.inHand = job.entryAt settings position →
      Uncut sizing settings start p (earlier ++ [job]) (job.partitionFrom sizing settings position)

namespace Pipeline

variable {source : BlockSource} {sizing : Sizing} {settings : Settings} {start : UInt64}
  {p p' taken : Pipeline} {jobs : List Job}

theorem begins_of_goesOn (preparing : p.preparing = true) : p.begins source = [] :=
  if_pos preparing

theorem begins_of_starts {b : Block} {breakpoint : UInt32} (free : p.preparing = false)
    (found : source.block? p.number = some b) (broken : source.breakpoint p.number = .ok breakpoint) :
    p.begins source = [⟨b, breakpoint⟩] := by
  simp [begins, free, found, broken]

theorem Uncut.emitted {earlier : List Job} {job : Job} {position : Nat} (segments : SegmentRing)
    (preparing : p.preparing = true) (number : p.number = start + UInt64.ofNat earlier.length)
    (within : position ≤ job.events) (hand : p.inHand = job.entryAt settings position) :
    ∃ rest, (p.emitted sizing settings segments).Uncut sizing settings start (earlier ++ [job]) rest ∧
      job.partitionFrom sizing settings position =
        (p.nextSegment sizing settings).stretch :: rest := by
  have stretch : (p.nextSegment sizing settings).stretch = job.stretchAt sizing settings position :=
    stretch_nextSegment within hand
  have bound := job.stepsAt_le sizing settings position
  have ends : (p.nextSegment sizing settings).endsBlock =
      (position + job.stepsAt sizing settings position == job.events) :=
    congrArg Stretch.endsBlock stretch
  rw [Job.partitionFrom, stretch]
  by_cases more : position + job.stepsAt sizing settings position < job.events
  · rw [if_pos more]
    rw [beq_eq_false_iff_ne.mpr (Nat.ne_of_lt more)] at ends
    refine ⟨_, .rest ?_ ?_ more (inHand_emitted_job segments hand), rfl⟩
    · simp [Pipeline.emitted, ends, preparing]
    · simp [Pipeline.emitted, ends, number]
  · rw [if_neg more]
    have last : position + job.stepsAt sizing settings position = job.events := by omega
    rw [beq_iff_eq.mpr last] at ends
    refine ⟨_, .nothing ?_ ?_, rfl⟩
    · simp [Pipeline.emitted, ends]
    · simp [Pipeline.emitted, ends, number, UInt64.add_assoc]

theorem Uncut.slice {rest : List Stretch} (uncut : p.Uncut sizing settings start jobs rest)
    (takes : TakesUp source settings p taken) (segments : SegmentRing) :
    ∃ rest', (taken.emitted sizing settings segments).Uncut sizing settings start
        (jobs ++ p.begins source) rest' ∧
      rest ++ (p.begins source).flatMap (Job.partition sizing settings) =
        (taken.nextSegment sizing settings).stretch :: rest' := by
  cases takes with
  | goesOn preparing =>
      cases uncut with
      | nothing free => rw [preparing] at free; contradiction
      | rest _ number left hand =>
          rw [begins_of_goesOn preparing, List.append_nil, List.flatMap_nil, List.append_nil]
          exact Uncut.emitted segments preparing number (Nat.le_of_lt left) hand
  | @starts b breakpoint free found broken =>
      cases uncut with
      | rest preparing => rw [preparing] at free; contradiction
      | nothing _ number =>
          rw [begins_of_starts free found broken, List.nil_append, List.flatMap_singleton]
          have hand := inHand_started_job settings ⟨b, breakpoint⟩ p
          exact Uncut.emitted segments rfl number (Nat.zero_le _) hand

end Pipeline

theorem Pipeline.Uncut.drained {sizing : Sizing} {settings : Settings} {start : UInt64}
    {p : Pipeline} {jobs : List Job} {rest : List Stretch}
    (uncut : p.Uncut sizing settings start jobs rest) (segments : SegmentRing) :
    { p with segments := segments }.Uncut sizing settings start jobs rest := by
  cases uncut with
  | nothing free number => exact .nothing free number
  | rest preparing number left hand => exact .rest preparing number left hand

/-- The ring is in order, and what has been emitted and what is still to be cut make up the
partitions of all blocks taken up. -/
structure Tallied (sizing : Sizing) (settings : Settings) (start : UInt64) (f : Flow) : Prop where
  ring : f.pipeline.segments.WellFormed
  tally : ∃ rest, f.pipeline.Uncut sizing settings start f.taken rest ∧
    f.emitted.map Segment.stretch ++ rest = f.taken.flatMap (Job.partition sizing settings)

namespace Tallied

variable {source : BlockSource} {sizing : Sizing} {settings : Settings} {start : UInt64}
  {f f' : Flow} {p : Pipeline}

protected theorem opening (sizing : Sizing) (settings : Settings) (start : UInt64) :
    Tallied sizing settings start (.opening start) :=
  { ring := ⟨Nat.zero_lt_succ _, Nat.zero_lt_succ _, rfl⟩
    tally := by
      refine ⟨[], .nothing rfl (UInt64.add_zero start).symm, ?_⟩
      simp [Flow.opening, Flow.emitted, SegmentRing.toList, SegmentRing.length, ringSize] }

theorem slice (tallied : Tallied sizing settings start f)
    (sliced : f.pipeline.slice source sizing settings = .ok (some p)) :
    Tallied sizing settings start
      { f with pipeline := p, taken := f.taken ++ f.pipeline.begins source } := by
  obtain ⟨rest, uncut, tally⟩ := tallied.tally
  obtain ⟨_, taken, segments, takes, pushed, rfl⟩ := Pipeline.slice_eq_some sliced
  rw [takes.segments] at pushed
  have longer := SegmentRing.toList_push? tallied.ring pushed
  obtain ⟨rest', uncut', cut⟩ := uncut.slice takes segments
  constructor
  · exact tallied.ring.push? pushed
  · refine ⟨rest', uncut', ?_⟩
    calc
      (f.drained ++ segments.toList).map Segment.stretch ++ rest'
      _ = f.emitted.map Segment.stretch ++
            ((taken.nextSegment sizing settings).stretch :: rest') := by
        simp [longer, Flow.emitted]
      _ = f.emitted.map Segment.stretch ++
            (rest ++ (f.pipeline.begins source).flatMap (Job.partition sizing settings)) := by
        rw [cut]
      _ = (f.taken ++ f.pipeline.begins source).flatMap (Job.partition sizing settings) := by
        rw [← List.append_assoc, tally, List.flatMap_append]

theorem fill {room count : Nat} (tallied : Tallied sizing settings start f)
    (filled : f.pipeline.fill source sizing settings room = .ok (p, count)) :
    Tallied sizing settings start
      { f with pipeline := p, taken := f.taken ++ f.pipeline.takings source sizing settings room } := by
  induction room generalizing f count with
  | zero =>
      obtain ⟨rfl, rfl⟩ := Prod.mk.inj (Except.ok.inj filled)
      simpa [Pipeline.takings] using tallied
  | succ room ih =>
      rw [Pipeline.fill_succ] at filled
      rw [Pipeline.takings]
      split at filled
      · contradiction
      · next sliced =>
        obtain ⟨rfl, rfl⟩ := Prod.mk.inj (Except.ok.inj filled)
        simpa [sliced] using tallied
      · next next sliced =>
        split at filled
        · contradiction
        · next filled' count' rest =>
          obtain ⟨rfl, rfl⟩ := Prod.mk.inj (Except.ok.inj filled)
          have later := ih (tallied.slice sliced) rest
          simpa [sliced, List.append_assoc] using later

theorem drain (tallied : Tallied sizing settings start f) :
    Tallied sizing settings start
      { f with
        pipeline := { f.pipeline with segments := f.pipeline.segments.advance }
        drained := f.drained ++ f.pipeline.segments.peek?.toList } := by
  obtain ⟨rest, uncut, tally⟩ := tallied.tally
  constructor
  · exact tallied.ring.advance
  · refine ⟨rest, uncut.drained _, ?_⟩
    have same : f.pipeline.segments.peek?.toList ++ f.pipeline.segments.advance.toList =
        f.pipeline.segments.toList := by
      rw [SegmentRing.peek?_eq_head? tallied.ring, SegmentRing.toList_advance tallied.ring]
      cases f.pipeline.segments.toList <;> rfl
    rw [← tally, Flow.emitted, Flow.emitted, List.append_assoc, same]

theorem visit (tallied : Tallied sizing settings start f) {visit : Visit}
    (visited : f.visit sizing settings visit = .ok f') : Tallied sizing settings start f' := by
  cases visit with
  | prepare source =>
      rw [Flow.visit, Pipeline.prepare] at visited
      cases filled : f.pipeline.fill source sizing settings SegmentRing.capacity with
      | error fault =>
          rw [filled] at visited
          contradiction
      | ok done =>
          rw [filled] at visited
          obtain rfl := Except.ok.inj visited
          exact tallied.fill filled
  | drain =>
      obtain rfl := Except.ok.inj visited
      exact tallied.drain

theorem run {visits : List Visit} (tallied : Tallied sizing settings start f)
    (ran : f.run sizing settings visits = .ok f') : Tallied sizing settings start f' := by
  induction visits generalizing f with
  | nil =>
      obtain rfl := Except.ok.inj ran
      exact tallied
  | cons visit visits ih =>
      rw [Flow.run] at ran
      split at ran
      · contradiction
      · next next visited => exact ih (tallied.visit visited) ran

end Tallied

/-- What slicing has come to, and what a further call can come to. -/
structure Sliced (sizing : Sizing) (settings : Settings) (start : UInt64) (f : Flow) : Prop where
  emitted : ∃ rest, f.pipeline.Uncut sizing settings start f.taken rest ∧
    f.emitted.map Segment.stretch ++ rest = f.taken.flatMap (Job.partition sizing settings)
  partitions : ∀ job ∈ f.taken, 0 < job.events →
    Partitions job 0 (job.partition sizing settings)
  turn : ∀ {source : BlockSource} {turns count : Nat} {p taken : Pipeline},
    f.pipeline.fill source sizing settings turns = .ok (p, count) → ¬ p.segments.isFull = true →
    p.takeUp source settings = .ok (some taken) →
    (taken.nextCut sizing settings).2 ≤ taken.inHand.remaining ∧
      (taken.emit sizing settings).2 = true
  returns : ∀ {source : BlockSource},
    (∀ number, ∃ breakpoint, source.breakpoint number = .ok breakpoint) →
    ∃ p count, f.pipeline.prepare source sizing settings = .ok (p, count)
  stops : ∀ {source : BlockSource} {p : Pipeline} {count : Nat},
    f.pipeline.prepare source sizing settings = .ok (p, count) →
    p.segments.isFull = true ∨ p.preparing = false ∧ source.block? p.number = none

/-- Segments are cut as the partitions of the blocks say, whatever calls and draining alternate and
whatever planner each call finds. -/
theorem sliced_as_partitioned {sizing : Sizing} {settings : Settings} {start : UInt64}
    {visits : List Visit} {f : Flow}
    (ran : (Flow.opening start).run sizing settings visits = .ok f) :
    Sliced sizing settings start f := by
  have tallied := (Tallied.opening sizing settings start).run ran
  constructor
  case emitted => exact tallied.tally
  case partitions =>
    intro job _ eventful
    exact Job.partitions_partitionFrom eventful
  case turn =>
    intro source turns count p taken _ room took
    have takes := Pipeline.takesUp took
    have room' : ¬ taken.segments.isFull = true := by rwa [takes.segments]
    obtain ⟨segments, pushed⟩ :=
      SegmentRing.push?_of_room room' (taken.nextSegment sizing settings)
    constructor
    · exact taken.inHand.cut_steps_le (sizing taken.inHand settings)
    · rw [Pipeline.emit_of_push takes.preparing pushed]
  case returns =>
    intro source breaks
    exact Pipeline.fill_total breaks SegmentRing.capacity f.pipeline
  case stops =>
    intro source p count filled
    exact Pipeline.fill_ends tallied.ring (Nat.le_add_left ..) filled

def Job.sample : Job :=
  { block :=
      { steps := ⟨31, 12, 0⟩, events := 31, directions := Lines.none, entrySquared := 0.0
        nominalSquared := 360000.0, acceleration := 36000.0, length := 1.0 }
    breakpoint := 7 }

def Job.source (job : Job) : BlockSource :=
  { block? := fun number => if number = 0 then some job.block else none
    breakpoint := fun _ => .ok job.breakpoint }

theorem sliced_across_calls :
    ∃ f, (Flow.opening 0).run (fun _ _ => 3) {}
        [.prepare Job.sample.source, .drain, .drain, .prepare Job.sample.source] = .ok f ∧
      f.emitted.map (fun s => s.steps.toNat) = [3, 3, 1, 3, 3, 3, 3, 3, 3, 3, 3] ∧
      f.drained.length = 2 ∧ Sliced (fun _ _ => 3) {} 0 f := by
  have evaluated :
      (match (Flow.opening 0).run (fun _ _ => 3) {}
          [.prepare Job.sample.source, .drain, .drain, .prepare Job.sample.source] with
        | .ok f =>
          f.emitted.map (fun s => s.steps.toNat) == [3, 3, 1, 3, 3, 3, 3, 3, 3, 3, 3] &&
            f.drained.length == 2
        | .error _ => false) = true := by
    decide +kernel
  split at evaluated
  · next f ran =>
    obtain ⟨emitted, drained⟩ := Bool.and_eq_true_iff.mp evaluated
    exact ⟨f, ran, eq_of_beq emitted, eq_of_beq drained, sliced_as_partitioned ran⟩
  · contradiction

end StepPulse
