import StepPulse.Proofs.Segment.Layout

/-! The blocks that were taken up and have not left the ring, whatever the planner loses. -/

namespace StepPulse

/-- The blocks that end in the ring, and the one in hand; `first` events of the front one lie before
the ring. -/
structure Worklist (settings : Settings) {capacity : Nat} (w : BlockQueue capacity) (p : Pipeline)
    (first : Nat) : Prop where
  aligned : Aligned settings w p first
  begun : w.blocks.length = endings p.segments.toList + if p.preparing then 1 else 0

namespace Worklist

variable {source : BlockSource} {sizing : Sizing} {settings : Settings} {capacity : Nat}
  {w : BlockQueue capacity} {p p' : Pipeline} {first : Nat}

theorem reset (settings : Settings) (p : Pipeline) (number : UInt64) :
    Worklist settings ({ tail := number } : BlockQueue capacity) (p.reset number) 0 := by
  constructor
  · exact Aligned.reset p (q := { tail := number }) (by simp)
  · rw [show (p.reset number).segments.toList = [] from SegmentRing.toList_clear _]
    rfl

theorem started {b : Block} (worklist : Worklist settings w p first)
    (room : ¬ p.segments.isFull = true) (free : p.preparing = false) (eventful : b.events ≠ 0)
    (decelerateAfter : UInt32) :
    Worklist settings ({ w with blocks := w.blocks ++ [b] } : BlockQueue capacity)
      (p.started settings b decelerateAfter) first := by
  have begun := worklist.begun
  rw [free, if_neg Bool.false_ne_true, Nat.add_zero] at begun
  constructor
  · apply (worklist.aligned.append eventful).started room free
    rw [← begun]
    exact List.getElem?_concat_length
  · show (w.blocks ++ [b]).length = endings p.segments.toList + 1
    rw [List.length_append, begun]
    rfl

theorem emitted {segments : SegmentRing} (worklist : Worklist settings w p first)
    (preparing : p.preparing = true)
    (pushed : p.segments.push? (p.nextSegment sizing settings) = some segments) :
    Worklist settings w (p.emitted sizing settings segments) first := by
  have begun := worklist.begun
  rw [preparing, if_pos rfl] at begun
  constructor
  · exact worklist.aligned.emitted preparing pushed
  · have longer := SegmentRing.toList_push? worklist.aligned.ring pushed
    rw [begun]
    simp only [Pipeline.emitted, longer, endings_append, endings_cons, endings_nil, preparing]
    cases (p.nextSegment sizing settings).endsBlock <;> rfl

theorem slice (worklist : Worklist settings w p first)
    (eventful : ∀ {number b}, source.block? number = some b → b.events ≠ 0)
    (sliced : p.slice source sizing settings = .ok (some p')) :
    ∃ w' : BlockQueue capacity, Worklist settings w' p' first ∧ w'.tail = w.tail ∧
      w.blocks <+: w'.blocks ∧
      ∀ b ∈ w'.blocks, b ∈ w.blocks ∨ ∃ number, source.block? number = some b := by
  obtain ⟨room, taken, segments, takes, pushed, rfl⟩ := Pipeline.slice_eq_some sliced
  cases takes with
  | goesOn preparing =>
      exact ⟨w, worklist.emitted preparing pushed, rfl, List.prefix_rfl, fun _ => Or.inl⟩
  | @starts b decelerateAfter free found _ =>
      have started := worklist.started room free (eventful found) decelerateAfter
      refine ⟨_, started.emitted rfl pushed, rfl, List.prefix_append _ _, ?_⟩
      intro b' member
      rcases List.mem_append.mp member with old | new
      · exact Or.inl old
      · exact Or.inr ⟨p.number, List.mem_singleton.mp new ▸ found⟩

theorem fill {room count : Nat} (worklist : Worklist settings w p first)
    (eventful : ∀ {number b}, source.block? number = some b → b.events ≠ 0)
    (filled : p.fill source sizing settings room = .ok (p', count)) :
    ∃ w' : BlockQueue capacity, Worklist settings w' p' first ∧ w'.tail = w.tail ∧
      w.blocks <+: w'.blocks ∧
      ∀ b ∈ w'.blocks, b ∈ w.blocks ∨ ∃ number, source.block? number = some b := by
  refine Pipeline.fill_keeps (fun p => ∃ w' : BlockQueue capacity, Worklist settings w' p first ∧
    w'.tail = w.tail ∧ w.blocks <+: w'.blocks ∧
      ∀ b ∈ w'.blocks, b ∈ w.blocks ∨ ∃ number, source.block? number = some b) ?_
    ⟨w, worklist, rfl, List.prefix_rfl, fun _ => Or.inl⟩ filled
  rintro p p' ⟨w', before, tail, older, taken⟩ sliced
  obtain ⟨w'', after, tail', older', taken'⟩ := before.slice eventful sliced
  refine ⟨w'', after, tail'.trans tail, older.trans older', fun b member => ?_⟩
  rcases taken' b member with earlier | found
  · exact taken b earlier
  · exact Or.inr found

theorem number_of_empty (worklist : Worklist settings w p first)
    (empty : p.segments.toList = []) : p.number = w.tail := by
  rw [worklist.aligned.number, empty]
  simp

end Worklist

end StepPulse
