import StepPulse.Segment.Ring

/-! The segment ring replies as a bounded list does. -/

namespace StepPulse

variable {S T Request Answer : Type}

def dialogue (answer : S → Request → Answer × S) : S → List Request → List Answer × S
  | s, [] => ([], s)
  | s, request :: rest =>
    let (reply, s) := answer s request
    let (replies, s) := dialogue answer s rest
    (reply :: replies, s)

theorem dialogue_alike {answer : S → Request → Answer × S} {answer' : T → Request → Answer × T}
    {Alike : S → T → Prop}
    (step : ∀ {s : S} {t : T} (request : Request), Alike s t →
      (answer s request).1 = (answer' t request).1 ∧
        Alike (answer s request).2 (answer' t request).2)
    {s : S} {t : T} (alike : Alike s t) (requests : List Request) :
    (dialogue answer s requests).1 = (dialogue answer' t requests).1 ∧
      Alike (dialogue answer s requests).2 (dialogue answer' t requests).2 := by
  induction requests generalizing s t with
  | nil => exact ⟨rfl, alike⟩
  | cons request rest ih =>
      obtain ⟨reply, alike⟩ := step request alike
      obtain ⟨replies, alike⟩ := ih alike
      exact ⟨congr (congrArg List.cons reply) replies, alike⟩

inductive RingRequest where
  | push (s : Segment)
  | advance
  | peek
  | clear
  deriving DecidableEq, Repr

inductive RingReply where
  | done
  | handedBack (s : Segment)
  | front (s : Option Segment)
  deriving DecidableEq, Repr

def SegmentRing.answer (r : SegmentRing) : RingRequest → RingReply × SegmentRing
  | .push s =>
    match r.push? s with
    | some r => (.done, r)
    | none => (.handedBack s, r)
  | .advance => (.done, r.advance)
  | .peek => (.front r.peek?, r)
  | .clear => (.done, r.clear)

def fifoAnswer (queued : List Segment) : RingRequest → RingReply × List Segment
  | .push s =>
    if queued.length < 9 then (.done, queued ++ [s])
    else (.handedBack s, queued)
  | .advance => (.done, queued.tail)
  | .peek => (.front queued.head?, queued)
  | .clear => (.done, [])

structure SegmentRing.Holds (r : SegmentRing) (queued : List Segment) : Prop where
  wellFormed : r.WellFormed
  content : r.toList = queued

namespace SegmentRing.Holds

variable {r : SegmentRing} {queued : List Segment}

theorem length (holds : r.Holds queued) : r.length = queued.length := by
  rw [← holds.content, length_toList]

theorem length_le (holds : r.Holds queued) : queued.length ≤ 9 := by
  rw [← holds.length]
  exact Nat.le_of_lt_succ r.length_lt

protected theorem empty : Holds {} [] := by
  constructor
  · constructor <;> decide
  · rfl

theorem push (holds : r.Holds queued) (s : Segment) :
    (r.answer (.push s)).1 = (fifoAnswer queued (.push s)).1 ∧
      (r.answer (.push s)).2.Holds (fifoAnswer queued (.push s)).2 := by
  have refused := push?_eq_none_iff holds.wellFormed s
  have bound := holds.length_le
  rw [holds.content] at refused
  simp only [answer, fifoAnswer]
  cases taken : r.push? s with
  | none =>
      have full : queued.length = 9 := refused.mp taken
      rw [if_neg (by omega)]
      exact ⟨rfl, holds⟩
  | some r' =>
      have room : queued.length ≠ 9 := by
        intro full
        rw [refused.mpr full] at taken
        contradiction
      rw [if_pos (by omega)]
      refine ⟨rfl, holds.wellFormed.push? taken, ?_⟩
      rw [toList_push? holds.wellFormed taken, holds.content]

theorem answer (request : RingRequest) (holds : r.Holds queued) :
    (r.answer request).1 = (fifoAnswer queued request).1 ∧
      (r.answer request).2.Holds (fifoAnswer queued request).2 := by
  cases request with
  | push s => exact holds.push s
  | advance =>
      refine ⟨rfl, holds.wellFormed.advance, ?_⟩
      exact (toList_advance holds.wellFormed).trans (congrArg List.tail holds.content)
  | peek =>
      refine ⟨congrArg RingReply.front ?_, holds⟩
      rw [peek?_eq_head? holds.wellFormed, holds.content]
  | clear => exact ⟨rfl, .clear r, toList_clear r⟩

end SegmentRing.Holds

structure RingReads (r : SegmentRing) (queued : List Segment) : Prop where
  content : r.toList = queued
  fits : queued.length ≤ 9
  length : r.length = queued.length
  isEmpty_iff : r.isEmpty = true ↔ queued = []
  isFull_iff : r.isFull = true ↔ queued.length = 9
  peek : r.peek? = queued.head?
  head_lt : r.head < 10
  next_lt : r.next < 10
  tail_lt : r.tail < 10
  next : r.next = (r.head + 1) % 10
  distance : (r.length : Int) = ((r.head : Int) - r.tail) % 10

theorem SegmentRing.Holds.reads {r : SegmentRing} {queued : List Segment} (holds : r.Holds queued) :
    RingReads r queued := by
  have wellFormed := holds.wellFormed
  have length := holds.length
  have head := wellFormed.head_lt
  have tail := wellFormed.tail_lt
  have next := wellFormed.next_eq
  refine
    { content := holds.content
      fits := holds.length_le
      length := length
      isEmpty_iff := ?_
      isFull_iff := ?_
      peek := ?_
      head_lt := head
      next_lt := ?_
      tail_lt := tail
      next := next
      distance := ?_ }
  · rw [wellFormed.isEmpty_iff, length, List.length_eq_zero_iff]
  · rw [wellFormed.isFull_iff, length]
    rfl
  · rw [peek?_eq_head? wellFormed, holds.content]
  · rw [next]
    exact mod_ringSize_lt _
  · simp only [SegmentRing.length, ringSize] at *
    omega

/-- Whatever is asked of a new ring, it replies as a list that holds nine segments at most. -/
theorem ring_holds_list (requests : List RingRequest) :
    (dialogue SegmentRing.answer {} requests).1 = (dialogue fifoAnswer [] requests).1 ∧
      RingReads (dialogue SegmentRing.answer {} requests).2
        (dialogue fifoAnswer [] requests).2 := by
  obtain ⟨replies, holds⟩ := dialogue_alike SegmentRing.Holds.answer SegmentRing.Holds.empty requests
  exact ⟨replies, holds.reads⟩

end StepPulse
