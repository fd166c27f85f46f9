import Mathlib.Data.Option.Basic
import StepPulse.Proofs.Segment.Slicing

/-! Pipelines that differ only in what is not read again. -/

namespace StepPulse

/-- Both end in the same fault, or both come out with values that are related. -/
inductive Concur {ε α β : Type} (rel : α → β → Prop) : Except ε α → Except ε β → Prop
  | error (fault : ε) : Concur rel (.error fault) (.error fault)
  | ok {a : α} {b : β} : rel a b → Concur rel (.ok a) (.ok b)

namespace Pipeline

section Demand

variable {sizing sizing' : Sizing} {settings settings' : Settings}

theorem prepare_congr (sizes : ∀ b, sizing' b settings' = sizing b settings)
    (rates : ∀ b, Rates.ofBlock b settings' = Rates.ofBlock b settings) (source : BlockSource)
    (p : Pipeline) : p.prepare source sizing' settings' = p.prepare source sizing settings := by
  have takes (p : Pipeline) : p.takeUp source settings' = p.takeUp source settings := by
    simp only [takeUp, SlicedBlock.ofBlock, rates]
  have emits (p : Pipeline) : p.emit sizing' settings' = p.emit sizing settings := by
    simp only [emit, sizes]
  have fills (room : Nat) (p : Pipeline) :
      p.fill source sizing' settings' room = p.fill source sizing settings room := by
    induction room generalizing p with
    | zero => rfl
    | succ room ih => simp only [fill, takes, emits, ih]
  exact fills SegmentRing.capacity p

end Demand

def Counted (rel : Pipeline → Pipeline → Prop) (a b : Pipeline × Nat) : Prop :=
  rel a.1 b.1 ∧ b.2 = a.2

/-- A difference between pipelines that a machine cannot see, and that nothing it does to them
brings to light. -/
structure Unseen (sizing : Sizing) (settings : Settings) (rel : Pipeline → Pipeline → Prop) :
    Prop where
  ordered : ∀ {p p' : Pipeline}, rel p p' → p.segments.WellFormed
  peek : ∀ {p p' : Pipeline}, rel p p' → p'.segments.peek? = p.segments.peek?
  rates : ∀ {p p' : Pipeline} {s : Segment}, rel p p' → p.segments.peek? = some s →
    (p'.blocks.get s.slot).rates = (p.blocks.get s.slot).rates
  reset : ∀ {p p' : Pipeline} (number : UInt64), rel p p' → rel (p.reset number) (p'.reset number)
  advance : ∀ {p p' : Pipeline}, rel p p' →
    rel { p with segments := p.segments.advance } { p' with segments := p'.segments.advance }
  prepare : ∀ {p p' : Pipeline} (source : BlockSource), rel p p' →
    Concur (Counted rel) (p.prepare source sizing settings) (p'.prepare source sizing settings)

structure Agrees (p p' : Pipeline) : Prop where
  ordered : p.segments.WellFormed
  ordered' : p'.segments.WellFormed
  queued : p'.segments.toList = p.segments.toList
  preparing : p'.preparing = p.preparing
  number : p'.number = p.number
  current : p'.blocks.current = p.blocks.current
  held : p.preparing = true → p'.inHand = p.inHand
  referred : ∀ s ∈ p.segments.toList, p'.blocks.get s.slot = p.blocks.get s.slot

namespace Agrees

variable {p p' : Pipeline} (source : BlockSource) (sizing : Sizing) (settings : Settings)

theorem peek (agrees : Agrees p p') : p'.segments.peek? = p.segments.peek? := by
  rw [SegmentRing.peek?_eq_head? agrees.ordered, SegmentRing.peek?_eq_head? agrees.ordered',
    agrees.queued]

theorem isFull (agrees : Agrees p p') : p'.segments.isFull = p.segments.isFull := by
  have length := congrArg List.length agrees.queued
  rw [SegmentRing.length_toList, SegmentRing.length_toList] at length
  rw [Bool.eq_iff_iff, agrees.ordered'.isFull_iff, agrees.ordered.isFull_iff, length]

theorem of_reset (p p' : Pipeline) (number : UInt64) :
    Agrees (p.reset number) (p'.reset number) := by
  have empty (r : SegmentRing) : r.clear.toList = [] := r.toList_clear
  constructor
  case ordered => exact .clear p.segments
  case ordered' => exact .clear p'.segments
  case queued => exact (empty p'.segments).trans (empty p.segments).symm
  case preparing => rfl
  case number => rfl
  case current => rfl
  case held => exact fun preparing => Bool.noConfusion preparing
  case referred =>
    intro s member
    rw [show (p.reset number).segments.toList = [] from empty p.segments] at member
    cases member

theorem advance (agrees : Agrees p p') :
    Agrees { p with segments := p.segments.advance }
      { p' with segments := p'.segments.advance } := by
  constructor
  case ordered => exact agrees.ordered.advance
  case ordered' => exact agrees.ordered'.advance
  case queued =>
    rw [SegmentRing.toList_advance agrees.ordered, SegmentRing.toList_advance agrees.ordered',
      agrees.queued]
  case preparing => exact agrees.preparing
  case number => exact agrees.number
  case current => exact agrees.current
  case held => exact agrees.held
  case referred =>
    intro s member
    rw [SegmentRing.toList_advance agrees.ordered] at member
    exact agrees.referred s (List.mem_of_mem_tail member)

theorem started (agrees : Agrees p p') (b : Block) (decelerateAfter : UInt32) :
    Agrees (p.started settings b decelerateAfter) (p'.started settings b decelerateAfter) := by
  let new := SlicedBlock.ofBlock b settings decelerateAfter
  have same (index : Nat) (old : p'.blocks.get index = p.blocks.get index) :
      (p'.blocks.start new).get index = (p.blocks.start new).get index := by
    rw [SlicedBlockRing.get_start, SlicedBlockRing.get_start, agrees.current, old]
  constructor
  case ordered => exact agrees.ordered
  case ordered' => exact agrees.ordered'
  case queued => exact agrees.queued
  case preparing => rfl
  case number => exact agrees.number
  case current =>
    show (p'.blocks.start new).current = (p.blocks.start new).current
    rw [SlicedBlockRing.current_start, SlicedBlockRing.current_start, agrees.current]
  case held =>
    intro _
    show (p'.blocks.start new).get (p'.blocks.start new).current =
      (p.blocks.start new).get (p.blocks.start new).current
    rw [SlicedBlockRing.current_start, SlicedBlockRing.current_start, agrees.current,
      SlicedBlockRing.get_start, SlicedBlockRing.get_start, agrees.current, Nat.mod_mod,
      if_pos rfl, if_pos rfl]
  case referred => exact fun s member => same s.slot (agrees.referred s member)

theorem takeUp (agrees : Agrees p p') :
    Concur (Option.Rel Agrees) (p.takeUp source settings) (p'.takeUp source settings) := by
  rw [Pipeline.takeUp, Pipeline.takeUp, agrees.preparing, agrees.number]
  split
  · exact .ok (.some agrees)
  · split
    · exact .ok .none
    · next b found =>
      split
      · exact .error _
      · next decelerateAfter broken =>
        have begun := agrees.started settings b decelerateAfter
        rw [Pipeline.started, Pipeline.started, agrees.number] at begun
        exact .ok (.some begun)

theorem nextCut (agrees : Agrees p p') (preparing : p.preparing = true) :
    p'.nextCut sizing settings = p.nextCut sizing settings := by
  rw [Pipeline.nextCut, Pipeline.nextCut, agrees.held preparing]

theorem nextSegment (agrees : Agrees p p') (preparing : p.preparing = true) :
    p'.nextSegment sizing settings = p.nextSegment sizing settings := by
  rw [Pipeline.nextSegment, Pipeline.nextSegment, agrees.nextCut sizing settings preparing,
    agrees.held preparing, agrees.current]

theorem emitted (agrees : Agrees p p') (preparing : p.preparing = true)
    {segments segments' : SegmentRing}
    (pushed : p.segments.push? (p.nextSegment sizing settings) = some segments)
    (pushed' : p'.segments.push? (p'.nextSegment sizing settings) = some segments') :
    Agrees (p.emitted sizing settings segments) (p'.emitted sizing settings segments') := by
  have cut := agrees.nextCut sizing settings preparing
  have next := agrees.nextSegment sizing settings preparing
  have queued := SegmentRing.toList_push? agrees.ordered pushed
  have noted (index : Nat)
      (known : index = p.blocks.current ∨ p'.blocks.get index = p.blocks.get index) :
      (p'.emitted sizing settings segments').blocks.get index =
        (p.emitted sizing settings segments).blocks.get index := by
    simp only [Pipeline.emitted, cut]
    rw [SlicedBlockRing.get_set, SlicedBlockRing.get_set, agrees.current]
    split
    · rfl
    · next other => exact known.resolve_left fun same => other (by rw [same])
  constructor
  case ordered => exact agrees.ordered.push? pushed
  case ordered' => exact agrees.ordered'.push? pushed'
  case queued =>
    show segments'.toList = segments.toList
    rw [queued, SegmentRing.toList_push? agrees.ordered' pushed', agrees.queued, next]
  case preparing => simp only [Pipeline.emitted, next, agrees.preparing]
  case number => simp only [Pipeline.emitted, next, agrees.number]
  case current => exact agrees.current
  case held =>
    intro _
    have current : (p'.emitted sizing settings segments').blocks.current =
        (p.emitted sizing settings segments).blocks.current := agrees.current
    rw [inHand, inHand, current]
    exact noted p.blocks.current (Or.inl rfl)
  case referred =>
    intro s member
    rw [show (p.emitted sizing settings segments).segments.toList = _ from queued] at member
    rcases List.mem_append.mp member with member | member
    · exact noted s.slot (Or.inr (agrees.referred s member))
    · rw [List.mem_singleton.mp member]
      exact noted p.blocks.current (Or.inl rfl)

theorem slice (agrees : Agrees p p') :
    Concur (Option.Rel Agrees) (p.slice source sizing settings)
      (p'.slice source sizing settings) := by
  rw [Pipeline.slice, Pipeline.slice, agrees.isFull]
  split
  · exact .ok .none
  · next room =>
    have takes := agrees.takeUp source settings
    generalize took : p.takeUp source settings = turn at takes
    generalize took' : p'.takeUp source settings = turn' at takes
    cases takes with
    | error fault => exact .error fault
    | ok same =>
        cases same with
        | none => exact .ok .none
        | @some taken taken' agrees' =>
            have begun := takesUp took
            have begun' := takesUp took'
            have roomy : ¬ taken.segments.isFull = true := by rwa [begun.segments]
            obtain ⟨segments, pushed⟩ :=
              SegmentRing.push?_of_room roomy (taken.nextSegment sizing settings)
            obtain ⟨segments', pushed'⟩ :=
              SegmentRing.push?_of_room (agrees'.isFull ▸ roomy)
                (taken'.nextSegment sizing settings)
            simp only [emit_of_push begun.preparing pushed, emit_of_push begun'.preparing pushed']
            exact .ok (.some (agrees'.emitted sizing settings begun.preparing pushed pushed'))

theorem fill (room : Nat) (agrees : Agrees p p') :
    Concur (Counted Agrees) (p.fill source sizing settings room)
      (p'.fill source sizing settings room) := by
  induction room generalizing p p' with
  | zero => exact .ok ⟨agrees, rfl⟩
  | succ room ih =>
      have sliced := agrees.slice source sizing settings
      rw [fill_succ, fill_succ]
      generalize p.slice source sizing settings = turn at sliced
      generalize p'.slice source sizing settings = turn' at sliced
      cases sliced with
      | error fault => exact .error fault
      | ok same =>
          cases same with
          | none => exact .ok ⟨agrees, rfl⟩
          | @some next next' agrees' =>
              have rest := ih agrees'
              dsimp only
              generalize next.fill source sizing settings room = filled at rest
              generalize next'.fill source sizing settings room = filled' at rest
              cases rest with
              | error fault => exact .error fault
              | ok counted => exact .ok ⟨counted.1, congrArg (· + 1) counted.2⟩

end Agrees

theorem unseen_agrees (sizing : Sizing) (settings : Settings) :
    Unseen sizing settings Agrees := by
  constructor
  case ordered => exact Agrees.ordered
  case peek => exact Agrees.peek
  case rates =>
    intro p p' s agrees peeked
    rw [SegmentRing.peek?_eq_head? agrees.ordered] at peeked
    rw [agrees.referred s (List.mem_of_mem_head? peeked)]
  case reset =>
    intro p p' number agrees
    exact .of_reset p p' number
  case advance => exact Agrees.advance
  case prepare =>
    intro p p' source agrees
    exact agrees.fill source sizing settings SegmentRing.capacity

theorem unseen_eq (sizing : Sizing) (settings : Settings) :
    Unseen sizing settings fun p p' => p' = p ∧ p.segments.WellFormed := by
  constructor
  case ordered => exact fun same => same.2
  case peek => exact fun same => by rw [same.1]
  case rates => exact fun same _ => by rw [same.1]
  case reset =>
    rintro p p' number ⟨rfl, _⟩
    exact ⟨rfl, .clear _⟩
  case advance =>
    rintro p p' ⟨rfl, ordered⟩
    exact ⟨rfl, ordered.advance⟩
  case prepare =>
    rintro p p' source ⟨rfl, ordered⟩
    cases filled : p'.prepare source sizing settings with
    | error fault => exact .error fault
    | ok result =>
        have kept := fill_keeps (fun p => p.segments.WellFormed) wellFormed_slice ordered filled
        exact .ok ⟨⟨rfl, kept⟩, rfl⟩

end Pipeline

end StepPulse
