import StepPulse.Block.Queue
import StepPulse.Proofs.Segment.Fifo

/-!
A queue as the window of a log. The log keeps every block that was ever accepted, and numbers them
one after the other from its start; what has left the queue lies before the window. Numbers wrap,
so that a long log gives each of them again and again, but a window is shorter than a turn, and
within it a number belongs to one block.
-/

namespace StepPulse

variable {capacity : Nat}

inductive QueueEdit where
  | push (b : Block)
  | discard
  | clear
  deriving DecidableEq, Repr

def BlockQueue.edit (q : BlockQueue capacity) :
    QueueEdit → Except BlockError (Option UInt64) × BlockQueue capacity
  | .push b =>
    match q.push b with
    | .ok (number, q) => (.ok (some number), q)
    | .error cause => (.error cause, q)
  | .discard => (.ok none, q.discard)
  | .clear => (.ok none, q.clear)

structure BlockLog where
  start : UInt64
  accepted : List Block := []
  dropped : Nat := 0
  deriving DecidableEq, Repr

namespace BlockLog

def number (log : BlockLog) (k : Nat) : UInt64 := log.start + UInt64.ofNat k

def queued (log : BlockLog) : Nat := log.accepted.length - log.dropped

def accept (log : BlockLog) (b : Block) : BlockLog := { log with accepted := log.accepted ++ [b] }

def discard (log : BlockLog) : BlockLog :=
  { log with dropped := min (log.dropped + 1) log.accepted.length }

def clear (log : BlockLog) : BlockLog := { log with dropped := log.accepted.length }

def edit (capacity : Nat) (log : BlockLog) :
    QueueEdit → Except BlockError (Option UInt64) × BlockLog
  | .push b =>
    if b.events = 0 then (.error .empty, log)
    else if log.queued < capacity then
      (.ok (some (log.number log.accepted.length)), log.accept b)
    else (.error .queueFull, log)
  | .discard => (.ok none, log.discard)
  | .clear => (.ok none, log.clear)

/-- The queue of what has not left, numbered as it is in the log. -/
def window (log : BlockLog) : BlockQueue capacity :=
  { blocks := log.accepted.drop log.dropped, tail := log.number log.dropped }

theorem number_add (log : BlockLog) (k j : Nat) :
    log.number (k + j) = log.number k + UInt64.ofNat j := by
  rw [number, number, UInt64.ofNat_add, UInt64.add_assoc]

@[simp] theorem length_window (log : BlockLog) :
    (log.window : BlockQueue capacity).length = log.queued := List.length_drop

structure Fits (capacity : Nat) (log : BlockLog) : Prop where
  dropped_le : log.dropped ≤ log.accepted.length
  queued_le : log.queued ≤ capacity

namespace Fits

variable {log : BlockLog}

theorem next (fits : Fits capacity log) :
    (log.window : BlockQueue capacity).tail + UInt64.ofNat log.queued =
      log.number log.accepted.length := by
  have whole : log.dropped + log.queued = log.accepted.length :=
    Nat.add_sub_cancel' fits.dropped_le
  rw [← whole, number_add]
  rfl

protected theorem accept (fits : Fits capacity log) (room : log.queued < capacity) (b : Block) :
    Fits capacity (log.accept b) := by
  have dropped_le := fits.dropped_le
  have longer : (log.accept b).accepted.length = log.accepted.length + 1 := List.length_append
  have same : (log.accept b).dropped = log.dropped := rfl
  simp only [queued] at room
  constructor
  · omega
  · rw [queued]
    omega

protected theorem discard (fits : Fits capacity log) : Fits capacity log.discard := by
  have queued_le := fits.queued_le
  simp only [queued] at queued_le
  constructor
  · exact Nat.min_le_right _ _
  · simp only [queued, discard]
    omega

protected theorem clear (capacity : Nat) (log : BlockLog) : Fits capacity log.clear := by
  constructor
  · exact Nat.le_refl _
  · rw [queued, clear, Nat.sub_self]
    exact Nat.zero_le capacity

theorem window_accept (fits : Fits capacity log) (b : Block) :
    ((log.accept b).window : BlockQueue capacity) =
      { (log.window : BlockQueue capacity) with
        blocks := (log.window : BlockQueue capacity).blocks ++ [b] } := by
  simp only [window, accept, number, List.drop_append_of_le_length fits.dropped_le]

theorem window_discard (fits : Fits capacity log) :
    (log.discard.window : BlockQueue capacity) = (log.window : BlockQueue capacity).discard := by
  rcases Nat.lt_or_eq_of_le fits.dropped_le with some_ | none_
  · have planned : (log.window : BlockQueue capacity).blocks =
        log.accepted[log.dropped] :: log.accepted.drop (log.dropped + 1) :=
      List.drop_eq_getElem_cons some_
    have further : log.discard = { log with dropped := log.dropped + 1 } := by
      rw [discard, Nat.min_eq_left some_]
    rw [BlockQueue.discard_of_planned planned, further]
    exact congrArg (BlockQueue.mk _) (log.number_add log.dropped 1)
  · have same : log.discard = log := by
      rw [discard, none_, Nat.min_eq_right (Nat.le_succ _), ← none_]
    rw [same, BlockQueue.discard, window, none_, List.drop_length]

theorem window_clear (fits : Fits capacity log) :
    (log.clear.window : BlockQueue capacity) = (log.window : BlockQueue capacity).clear := by
  rw [BlockQueue.clear, length_window, fits.next]
  simp only [window, clear, number, List.drop_length]

theorem edit_window (fits : Fits capacity log) (e : QueueEdit) :
    (log.window : BlockQueue capacity).edit e =
      ((log.edit capacity e).1, (log.edit capacity e).2.window) := by
  cases e with
  | push b =>
      by_cases empty : b.events = 0
      · simp only [BlockQueue.edit, BlockQueue.push, BlockLog.edit, if_pos empty]
      · by_cases room : log.queued < capacity
        · have taken : (log.window : BlockQueue capacity).push b =
              .ok (log.number log.accepted.length, (log.accept b).window) :=
            BlockQueue.push_eq_ok_iff.mpr
              ⟨empty, by rwa [length_window], by rw [length_window, fits.next],
                fits.window_accept b⟩
          simp only [BlockQueue.edit, taken, BlockLog.edit, if_neg empty, if_pos room]
        · simp only [BlockQueue.edit, BlockQueue.push, BlockQueue.isFull, length_window,
            BlockLog.edit, if_neg empty, if_neg room, if_pos (decide_eq_true (Nat.not_lt.mp room))]
  | discard => exact congrArg (Prod.mk _) fits.window_discard.symm
  | clear => exact congrArg (Prod.mk _) fits.window_clear.symm

protected theorem edit (fits : Fits capacity log) (e : QueueEdit) :
    Fits capacity (log.edit capacity e).2 := by
  cases e with
  | push b =>
      simp only [BlockLog.edit]
      split
      · exact fits
      · split
        · next room => exact fits.accept room b
        · exact fits
  | discard => exact fits.discard
  | clear => exact .clear capacity log

end Fits

section Reading

variable {log : BlockLog} {k : Nat}

/-- Within one turn of the numbers a number tells how far its position is from the front. -/
theorem offset_number (from_ : log.dropped ≤ k) (near : k - log.dropped < UInt64.size) :
    (log.number k - log.number log.dropped).toNat = k - log.dropped := by
  have numbered := log.number_add log.dropped (k - log.dropped)
  rw [Nat.add_sub_cancel' from_] at numbered
  rw [numbered, UInt64.add_comm, UInt64.add_sub_cancel, UInt64.toNat_ofNat_of_lt' near]

theorem block?_number (from_ : log.dropped ≤ k) (near : k - log.dropped < UInt64.size) :
    (log.window : BlockQueue capacity).block? (log.number k) = log.accepted[k]? := by
  rw [BlockQueue.block?, window, offset_number from_ near, List.getElem?_drop,
    Nat.add_sub_cancel' from_]

theorem exists_position {number : UInt64} {b : Block}
    (found : (log.window : BlockQueue capacity).block? number = some b) :
    ∃ k, log.dropped ≤ k ∧ log.accepted[k]? = some b ∧ log.number k = number := by
  refine ⟨log.dropped + (number - log.number log.dropped).toNat, Nat.le_add_right _ _, ?_, ?_⟩
  · rw [← List.getElem?_drop]
    exact found
  · rw [number_add, UInt64.ofNat_toNat, UInt64.add_comm, UInt64.sub_add_cancel]

end Reading

end BlockLog

structure Reads (log : BlockLog) (q : BlockQueue capacity) : Prop where
  window : q = log.window
  length : q.length = log.queued
  fits : log.queued ≤ capacity
  tail : q.tail = log.number log.dropped
  current : q.current? = q.block? q.tail
  found_iff : ∀ {number : UInt64} {b : Block}, q.block? number = some b ↔
    ∃ k, log.dropped ≤ k ∧ log.accepted[k]? = some b ∧ log.number k = number
  distinct : ∀ {j k : Nat}, log.dropped ≤ j → j < log.accepted.length → log.dropped ≤ k →
    k < log.accepted.length → log.number j = log.number k → j = k
  breakpoint : ∀ {k : Nat} {b : Block}, log.dropped ≤ k → log.accepted[k]? = some b →
    q.breakpoint (log.number k) =
      b.decelerateAfter ((log.accepted[k + 1]?.map Block.entrySquared).getD 0.0)
  unqueued : ∀ {number : UInt64}, q.block? number = none → q.breakpoint number = .ok 0
  accepts_iff : ∀ {b : Block} {number : UInt64}, b.events ≠ 0 →
    ((q.edit (.push b)).1 = .ok (some number) ↔
      log.queued < capacity ∧ number = log.number log.accepted.length)
  rejects : ∀ {b : Block} {cause : BlockError}, (q.edit (.push b)).1 = .error cause →
    (q.edit (.push b)).2 = q
  clear : q.clear = { blocks := [], tail := log.number log.accepted.length }

theorem BlockQueue.edit_rejected {q : BlockQueue capacity} {b : Block} {cause : BlockError}
    (rejected : (q.edit (.push b)).1 = .error cause) : (q.edit (.push b)).2 = q := by
  revert rejected
  simp only [edit]
  split
  · exact nofun
  · exact fun _ => rfl

namespace BlockLog.Fits

variable {log : BlockLog}

theorem accepts_iff (fits : Fits capacity log) {b : Block} {number : UInt64}
    (eventful : b.events ≠ 0) :
    ((log.window : BlockQueue capacity).edit (.push b)).1 = .ok (some number) ↔
      log.queued < capacity ∧ number = log.number log.accepted.length := by
  rw [fits.edit_window, BlockLog.edit, if_neg eventful]
  split
  · next room => simp [room, eq_comm]
  · next full => simp [full]

theorem reads (fits : Fits capacity log) (small : capacity < UInt64.size) :
    Reads log (log.window : BlockQueue capacity) := by
  have dropped_le := fits.dropped_le
  have queued_le := fits.queued_le
  rw [queued] at queued_le
  have near : ∀ {k : Nat}, k ≤ log.accepted.length → k - log.dropped < UInt64.size := by
    intro k bound
    omega
  refine
    { window := rfl
      length := log.length_window
      fits := fits.queued_le
      tail := rfl
      current := (BlockQueue.block?_tail _).symm
      found_iff := ⟨exists_position, ?_⟩
      distinct := ?_
      breakpoint := ?_
      unqueued := ?_
      accepts_iff := fits.accepts_iff
      rejects := BlockQueue.edit_rejected
      clear := ?_ }
  · rintro ⟨k, from_, stands, rfl⟩
    obtain ⟨bound, _⟩ := List.getElem?_eq_some_iff.mp stands
    rw [block?_number from_ (near (Nat.le_of_lt bound)), stands]
  · intro j k from_j bound_j from_k bound_k same
    have offset := offset_number from_j (near (Nat.le_of_lt bound_j))
    rw [same, offset_number from_k (near (Nat.le_of_lt bound_k))] at offset
    omega
  · intro k b from_ stands
    obtain ⟨bound, _⟩ := List.getElem?_eq_some_iff.mp stands
    have further : log.number k + 1 = log.number (k + 1) := (log.number_add k 1).symm
    rw [BlockQueue.breakpoint, block?_number from_ (near (Nat.le_of_lt bound)), stands]
    simp only [BlockQueue.exitSquared, further]
    rw [block?_number (Nat.le_succ_of_le from_) (near bound)]
  · intro number missing
    rw [BlockQueue.breakpoint, missing]
  · rw [← fits.window_clear]
    simp only [BlockLog.window, BlockLog.clear, List.drop_length]
    rfl

end BlockLog.Fits

structure BlockQueue.Shows (q : BlockQueue capacity) (log : BlockLog) : Prop where
  window : q = log.window
  fits : log.Fits capacity

namespace BlockQueue.Shows

variable {log : BlockLog} {q : BlockQueue capacity}

theorem edit (e : QueueEdit) (shows : q.Shows log) :
    (q.edit e).1 = (log.edit capacity e).1 ∧ (q.edit e).2.Shows (log.edit capacity e).2 := by
  obtain ⟨rfl, fits⟩ := shows
  rw [fits.edit_window e]
  exact ⟨rfl, rfl, fits.edit e⟩

theorem reads (shows : q.Shows log) (small : capacity < UInt64.size) : Reads log q := by
  obtain ⟨rfl, fits⟩ := shows
  exact fits.reads small

end BlockQueue.Shows

/-- Wherever the numbers start, and whatever is asked of a queue from then on: it replies as the log
of its accepted blocks does, and shows the part of that log which has not left. -/
theorem queue_shows_log (small : capacity < UInt64.size) (start : UInt64) (edits : List QueueEdit) :
    (dialogue BlockQueue.edit ({ tail := start } : BlockQueue capacity) edits).1 =
        (dialogue (BlockLog.edit capacity) { start := start } edits).1 ∧
      Reads (dialogue (BlockLog.edit capacity) { start := start } edits).2
        (dialogue BlockQueue.edit ({ tail := start } : BlockQueue capacity) edits).2 := by
  have blank : BlockLog.Fits capacity { start := start } := ⟨Nat.le_refl _, Nat.zero_le _⟩
  have opens : BlockQueue.Shows ({ tail := start } : BlockQueue capacity) { start := start } :=
    ⟨congrArg (BlockQueue.mk _) (UInt64.add_zero start).symm, blank⟩
  obtain ⟨replies, shows⟩ := dialogue_alike BlockQueue.Shows.edit opens edits
  exact ⟨replies, shows.reads small⟩

def plainBlock (events : UInt32) : Block :=
  { steps := ⟨events, 0, 0⟩, events := events, directions := Lines.none, entrySquared := 0.0
    nominalSquared := 360000.0, acceleration := 36000.0, length := 1.0 }

def wrappingEdits : List QueueEdit :=
  [.push (plainBlock 3), .push (plainBlock 4), .push (plainBlock 5), .discard,
    .push (plainBlock 6), .push (plainBlock 0), .clear, .push (plainBlock 7)]

theorem shows_log_past_last_number :
    2 < UInt64.size ∧
    (dialogue BlockQueue.edit ({ tail := -1 } : BlockQueue 2) wrappingEdits).1 =
      [.ok (some (-1)), .ok (some 0), .error .queueFull, .ok none, .ok (some 1), .error .empty,
        .ok none, .ok (some 2)] ∧
    Reads
      { start := -1
        accepted := [plainBlock 3, plainBlock 4, plainBlock 6, plainBlock 7], dropped := 3 }
      (dialogue BlockQueue.edit ({ tail := -1 } : BlockQueue 2) wrappingEdits).2 := by
  obtain ⟨_, reads⟩ := @queue_shows_log 2 (by decide) (-1) wrappingEdits
  exact ⟨by decide, rfl, reads⟩

end StepPulse
