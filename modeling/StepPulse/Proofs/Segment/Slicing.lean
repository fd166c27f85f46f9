import StepPulse.Segment.Pipeline

/-! Slicing, one turn at a time. -/

namespace StepPulse

namespace SegmentRing

theorem push?_of_room {r : SegmentRing} (room : ¬ r.isFull = true) (s : Segment) :
    ∃ r', r.push? s = some r' := by
  rw [push?, if_neg room]
  exact ⟨_, rfl⟩

theorem WellFormed.room {r : SegmentRing} (wf : r.WellFormed) (room : ¬ r.isFull = true) :
    r.toList.length < capacity := by
  have bound := r.length_lt
  have other : r.length ≠ capacity := fun full => room (wf.isFull_iff.mpr full)
  rw [length_toList]
  simp only [capacity, ringSize] at *
  omega

end SegmentRing

namespace Pipeline

variable (source : BlockSource) (sizing : Sizing) (settings : Settings)

def inHand (p : Pipeline) : SlicedBlock := p.blocks.get p.blocks.current

def nextCut (p : Pipeline) : SlicedBlock × UInt32 := p.inHand.cut (sizing p.inHand settings)

def nextSegment (p : Pipeline) : Segment :=
  { steps := (p.nextCut sizing settings).2
    slot := p.blocks.current
    endsBlock := (p.nextCut sizing settings).1.remaining == 0
    decelerates := p.inHand.decelerateAfter == 0 }

def started (b : Block) (decelerateAfter : UInt32) (p : Pipeline) : Pipeline :=
  { p with
    preparing := true
    blocks := p.blocks.start (SlicedBlock.ofBlock b settings decelerateAfter) }

def emitted (segments : SegmentRing) (p : Pipeline) : Pipeline :=
  { preparing := p.preparing && !(p.nextSegment sizing settings).endsBlock
    number := if (p.nextSegment sizing settings).endsBlock then p.number + 1 else p.number
    segments := segments
    blocks := p.blocks.set p.blocks.current (p.nextCut sizing settings).1 }

inductive TakesUp (p : Pipeline) : Pipeline → Prop
  | goesOn : p.preparing = true → TakesUp p p
  | starts {b : Block} {decelerateAfter : UInt32} :
      p.preparing = false → source.block? p.number = some b →
      source.breakpoint p.number = .ok decelerateAfter →
      TakesUp p (p.started settings b decelerateAfter)

def slice (p : Pipeline) : Except ClampFault (Option Pipeline) :=
  if p.segments.isFull then .ok none
  else
    match p.takeUp source settings with
    | .error fault => .error fault
    | .ok none => .ok none
    | .ok (some taken) => .ok (some (taken.emit sizing settings).1)

variable {source sizing settings}

theorem takesUp {p taken : Pipeline} (took : p.takeUp source settings = .ok (some taken)) :
    TakesUp source settings p taken := by
  rw [takeUp] at took
  split at took
  · next preparing =>
    obtain rfl := Option.some.inj (Except.ok.inj took)
    exact .goesOn preparing
  · next free =>
    split at took
    · cases took
    · next b found =>
      split at took
      · contradiction
      · next decelerateAfter broken =>
        obtain rfl := Option.some.inj (Except.ok.inj took)
        exact .starts (Bool.eq_false_iff.mpr free) found broken

theorem TakesUp.segments {p taken : Pipeline} (takes : TakesUp source settings p taken) :
    taken.segments = p.segments := by
  cases takes with
  | goesOn => rfl
  | starts => rfl

theorem TakesUp.preparing {p taken : Pipeline} (takes : TakesUp source settings p taken) :
    taken.preparing = true := by
  cases takes with
  | goesOn preparing => exact preparing
  | starts => rfl

theorem takeUp_eq_none {p : Pipeline} (took : p.takeUp source settings = .ok none) :
    p.preparing = false ∧ source.block? p.number = none := by
  rw [takeUp] at took
  split at took
  · cases took
  · next free =>
    split at took
    · next missing => exact ⟨Bool.eq_false_iff.mpr free, missing⟩
    · split at took <;> cases took

theorem emit_of_push {p : Pipeline} {segments : SegmentRing} (preparing : p.preparing = true)
    (taken : p.segments.push? (p.nextSegment sizing settings) = some segments) :
    p.emit sizing settings = (p.emitted sizing settings segments, true) := by
  simp only [nextSegment, nextCut, inHand] at taken
  simp only [emit, emitted, nextSegment, nextCut, inHand, taken, preparing]
  split
  · next ends => simp [ends]
  · next open_ => simp [open_]

theorem slice_eq_some {p p' : Pipeline} (sliced : p.slice source sizing settings = .ok (some p')) :
    ¬ p.segments.isFull = true ∧ ∃ taken segments, TakesUp source settings p taken ∧
      taken.segments.push? (taken.nextSegment sizing settings) = some segments ∧
      p' = taken.emitted sizing settings segments := by
  rw [slice] at sliced
  split at sliced
  · cases sliced
  · next room =>
    split at sliced
    · cases sliced
    · cases sliced
    · next taken took =>
      have takes := takesUp took
      have room' : ¬ taken.segments.isFull = true := by rwa [takes.segments]
      obtain ⟨segments, pushed⟩ :=
        SegmentRing.push?_of_room room' (taken.nextSegment sizing settings)
      rw [emit_of_push takes.preparing pushed] at sliced
      exact ⟨room, taken, segments, takes, pushed, (Option.some.inj (Except.ok.inj sliced)).symm⟩

theorem toList_slice {p p' : Pipeline} (wf : p.segments.WellFormed)
    (sliced : p.slice source sizing settings = .ok (some p')) :
    ∃ s, p'.segments.toList = p.segments.toList ++ [s] := by
  obtain ⟨_, taken, segments, takes, pushed, rfl⟩ := slice_eq_some sliced
  rw [takes.segments] at pushed
  exact ⟨_, SegmentRing.toList_push? wf pushed⟩

theorem wellFormed_slice {p p' : Pipeline} (wf : p.segments.WellFormed)
    (sliced : p.slice source sizing settings = .ok (some p')) : p'.segments.WellFormed := by
  obtain ⟨_, taken, segments, takes, pushed, rfl⟩ := slice_eq_some sliced
  rw [takes.segments] at pushed
  exact wf.push? pushed

theorem peek?_slice {p p' : Pipeline} {s : Segment} (wf : p.segments.WellFormed)
    (sliced : p.slice source sizing settings = .ok (some p'))
    (peeked : p.segments.peek? = some s) : p'.segments.peek? = some s := by
  obtain ⟨new, longer⟩ := toList_slice wf sliced
  rw [SegmentRing.peek?_eq_head? wf] at peeked
  rw [SegmentRing.peek?_eq_head? (wellFormed_slice wf sliced), longer, List.head?_append, peeked]
  rfl

theorem slice_eq_none {p : Pipeline} (sliced : p.slice source sizing settings = .ok none) :
    p.segments.isFull = true ∨ p.preparing = false ∧ source.block? p.number = none := by
  rw [slice] at sliced
  split at sliced
  · next full => exact Or.inl full
  · split at sliced
    · contradiction
    · next took => exact Or.inr (takeUp_eq_none took)
    · cases sliced

theorem fill_succ (room : Nat) (p : Pipeline) :
    p.fill source sizing settings (room + 1) =
      match p.slice source sizing settings with
      | .error fault => .error fault
      | .ok none => .ok (p, 0)
      | .ok (some next) =>
        match next.fill source sizing settings room with
        | .error fault => .error fault
        | .ok (filled, count) => .ok (filled, count + 1) := by
  rw [fill, slice]
  by_cases full : p.segments.isFull = true
  · simp [full]
  · rw [if_neg full, if_neg full]
    cases took : p.takeUp source settings with
    | error fault => rfl
    | ok found =>
        cases found with
        | none => rfl
        | some taken =>
            have takes := takesUp took
            have room' : ¬ taken.segments.isFull = true := by rwa [takes.segments]
            obtain ⟨segments, pushed⟩ :=
              SegmentRing.push?_of_room room' (taken.nextSegment sizing settings)
            have emits := emit_of_push takes.preparing pushed
            dsimp only
            generalize taken.emit sizing settings = turn at emits ⊢
            subst emits
            rfl

theorem fill_keeps (kept : Pipeline → Prop) {room count : Nat} {p filled : Pipeline}
    (turn : ∀ {p p' : Pipeline}, kept p → p.slice source sizing settings = .ok (some p') → kept p')
    (holds : kept p) (done : p.fill source sizing settings room = .ok (filled, count)) :
    kept filled := by
  induction room generalizing p count with
  | zero =>
      obtain ⟨rfl, rfl⟩ := Prod.mk.inj (Except.ok.inj done)
      exact holds
  | succ room ih =>
      rw [fill_succ] at done
      split at done
      · contradiction
      · obtain ⟨rfl, rfl⟩ := Prod.mk.inj (Except.ok.inj done)
        exact holds
      · next next sliced =>
        split at done
        · contradiction
        · next filled' count' rest =>
          obtain ⟨rfl, rfl⟩ := Prod.mk.inj (Except.ok.inj done)
          exact ih (turn holds sliced) rest

theorem peek?_fill {room count : Nat} {p filled : Pipeline} {s : Segment}
    (wf : p.segments.WellFormed) (peeked : p.segments.peek? = some s)
    (done : p.fill source sizing settings room = .ok (filled, count)) :
    filled.segments.peek? = some s := by
  have kept := fill_keeps (fun p => p.segments.WellFormed ∧ p.segments.peek? = some s)
    (fun kept sliced => ⟨wellFormed_slice kept.1 sliced, peek?_slice kept.1 sliced kept.2⟩)
    ⟨wf, peeked⟩ done
  exact kept.2

theorem fill_ends {room count : Nat} {p filled : Pipeline} (wf : p.segments.WellFormed)
    (enough : SegmentRing.capacity ≤ p.segments.length + room)
    (done : p.fill source sizing settings room = .ok (filled, count)) :
    filled.segments.isFull = true ∨
      filled.preparing = false ∧ source.block? filled.number = none := by
  induction room generalizing p count with
  | zero =>
      obtain ⟨rfl, rfl⟩ := Prod.mk.inj (Except.ok.inj done)
      have bound := p.segments.length_lt
      refine Or.inl (wf.isFull_iff.mpr ?_)
      simp only [SegmentRing.capacity, ringSize] at *
      omega
  | succ room ih =>
      rw [fill_succ] at done
      split at done
      · contradiction
      · next sliced =>
        obtain ⟨rfl, rfl⟩ := Prod.mk.inj (Except.ok.inj done)
        exact slice_eq_none sliced
      · next next sliced =>
        split at done
        · contradiction
        · next filled' count' rest =>
          obtain ⟨rfl, rfl⟩ := Prod.mk.inj (Except.ok.inj done)
          obtain ⟨s, longer⟩ := toList_slice wf sliced
          refine ih (wellFormed_slice wf sliced) ?_ rest
          have length := congrArg List.length longer
          simp only [SegmentRing.length_toList, List.length_append, List.length_singleton]
            at length
          omega

theorem fill_total (breaks : ∀ number, ∃ after, source.breakpoint number = .ok after) (room : Nat)
    (p : Pipeline) : ∃ filled count, p.fill source sizing settings room = .ok (filled, count) := by
  induction room generalizing p with
  | zero => exact ⟨p, 0, rfl⟩
  | succ room ih =>
      have sliced : ∃ turn, p.slice source sizing settings = .ok turn := by
        obtain ⟨after, broken⟩ := breaks p.number
        rw [slice, takeUp, broken]
        split
        · exact ⟨_, rfl⟩
        · split
          · next refused =>
            split at refused
            · cases refused
            · split at refused <;> cases refused
          · exact ⟨_, rfl⟩
          · exact ⟨_, rfl⟩
      obtain ⟨turn, sliced⟩ := sliced
      rw [fill_succ, sliced]
      cases turn with
      | none => exact ⟨p, 0, rfl⟩
      | some next =>
          obtain ⟨filled, count, rest⟩ := ih next
          refine ⟨filled, count + 1, ?_⟩
          simp only [rest]

end Pipeline

end StepPulse
