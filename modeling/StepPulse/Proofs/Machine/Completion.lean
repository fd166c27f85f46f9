import StepPulse.Proofs.Machine.Ready

/-! The loop that drives a machine ends, with every step made that was asked for. -/

namespace StepPulse

open Machine

variable {H : Type} {capacity : Nat}

namespace Move

def total (moves : List Move) (axis : Axis) : Int :=
  (moves.map fun move => (move.steps.get axis).toInt).sum

def strokes (moves : List Move) (axis : Axis) : Nat :=
  (moves.map fun move => (move.steps.get axis).toInt.natAbs).sum

def eventsOf (moves : List Move) : Nat := (moves.map fun move => move.events.toNat).sum

theorem total_append (moves further : List Move) (axis : Axis) :
    total (moves ++ further) axis = total moves axis + total further axis := by
  rw [total, List.map_append, List.sum_append, total, total]

theorem strokes_append (moves further : List Move) (axis : Axis) :
    strokes (moves ++ further) axis = strokes moves axis + strokes further axis := by
  rw [strokes, List.map_append, List.sum_append, strokes, strokes]

end Move

namespace Machine

def offer : Machine H capacity → List Move → List Move × Machine H capacity
  | m, [] => ([], m)
  | m, move :: moves =>
    match move.build with
    | .error _ => m.offer moves
    | .ok b =>
      match m.planner.push b with
      | .error _ => m.offer moves
      | .ok (_, planner) =>
        let (taken, next) := { m with planner := planner }.offer moves
        (move :: taken, next)

def arriving (m : Machine (Watched H) capacity) (arrivals : List (List Move)) : List Move :=
  if m.ticking then arrivals.headD [] else []

/-- The loop that drives a machine, for a number of turns at most: it tells which of the arriving
moves were taken, and the machine at its end. -/
def drive (rig : Rig (Watched H)) :
    Nat → List (List Move) → Machine (Watched H) capacity →
      Except ClampFault (Option (List Move × Machine (Watched H) capacity))
  | 0, _, _ => .ok none
  | turns + 1, arrivals, m =>
    match m.prepareSegments rig with
    | .error fault => .error fault
    | .ok (_, prepared) =>
      if prepared.ticking then
        let turned := (prepared.tick rig).onPulseReset rig
        let (taken, next) := turned.offer (turned.arriving arrivals)
        match drive rig turns arrivals.tail next with
        | .ok (some (later, final)) => .ok (some (taken ++ later, final))
        | other => other
      else .ok (some ([], prepared))

end Machine

theorem BlockQueue.breakpoint_total {q : BlockQueue capacity}
    (regular : ∀ b ∈ q.blocks, b.Regular) (number : UInt64) :
    ∃ after, q.breakpoint number = .ok after := by
  rw [breakpoint]
  split
  · exact ⟨0, rfl⟩
  · next b found => exact (regular b (List.mem_of_getElem? found)).decelerates _

theorem prepareSegments_total {m : Machine H capacity} (rig : Rig H)
    (regular : ∀ b ∈ m.planner.blocks, b.Regular) :
    ∃ p count, m.pipeline.fill m.planner.source rig.sizing rig.settings SegmentRing.capacity =
      .ok (p, count) ∧ m.prepareSegments rig = .ok (count, { m with pipeline := p }) := by
  have breaks : ∀ number, ∃ after, m.planner.source.breakpoint number = .ok after :=
    BlockQueue.breakpoint_total regular
  obtain ⟨p, count, filled⟩ := Pipeline.fill_total breaks SegmentRing.capacity m.pipeline
  refine ⟨p, count, filled, ?_⟩
  rw [prepareSegments, Pipeline.prepare, filled]

theorem Settings.floor_pos_of_check {s : Settings} (valid : s.check = .ok ()) :
    0 < s.minimumStepRate.toNat := by
  have nonzero : s.minimumStepRate ≠ 0 := by
    intro zero
    simp only [Settings.check] at valid
    split at valid
    · contradiction
    · split at valid
      · contradiction
      · split at valid
        · contradiction
        · split at valid
          · contradiction
          · contradiction
  exact UInt32.lt_iff_toNat_lt.mp (UInt32.pos_iff_ne_zero.mpr nonzero)

theorem Move.events_build {m : Move} {b : Block} (built : m.build = .ok b) :
    b.events = m.events := by
  obtain ⟨_, _, rfl⟩ := Move.build_eq_ok built
  rfl

namespace Ready

variable {rig : Rig H} {settings : Settings} {m m' : Machine (Watched H) capacity} {t : Trip}
  {place : Axis → Int} {strokes : Axis → Nat}

theorem regular (readied : Ready settings m t place strokes) :
    ∀ b ∈ m.planner.blocks, b.Regular := by
  obtain ⟨first, onCourse⟩ := readied.onCourse
  exact onCourse.regular

theorem prepared (readied : Ready rig.settings m t place strokes) :
    ∃ p count, m.prepareSegments rig.watched = .ok (count, { m with pipeline := p }) ∧
      Ready rig.settings { m with pipeline := p } t place strokes ∧
      (p.segments.peek? = none → m.planner.blocks = []) := by
  obtain ⟨p, count, filled, done⟩ := prepareSegments_total rig.watched readied.regular
  obtain ⟨first, onCourse⟩ := readied.onCourse
  have aligned := onCourse.coherent.aligned
  refine ⟨p, count, done, ?_, fun peeked => ?_⟩
  · exact readied.congr ⟨first, onCourse.fill filled⟩ rfl (fun block => block) fun _ => rfl
  · have aligned' := aligned.fill filled
    rw [SegmentRing.peek?_eq_head? aligned'.ring, List.head?_eq_none_iff] at peeked
    rcases Pipeline.fill_ends aligned.ring (Nat.le_add_left ..) filled with full | ⟨_, missing⟩
    · rw [aligned'.ring.isFull_iff, ← SegmentRing.length_toList, peeked] at full
      contradiction
    · exact aligned'.spent missing peeked

theorem noted (readied : Ready settings m t place strokes) (noted : Noted m m')
    (runtime : m'.runtime = m.runtime) : Ready settings m' t place strokes := by
  obtain ⟨first, onCourse⟩ := readied.onCourse
  refine readied.congr ⟨first, onCourse.still noted.still⟩ noted.still.planner (fun block => ?_)
    fun axis => ?_
  · rwa [runtime] at block
  · rw [noted.pulses, pending, pending, runtime]

theorem queued (readied : Ready settings m t place strokes) {move : Move} {b : Block}
    {number : UInt64} {planner : BlockQueue capacity} (built : move.build = .ok b)
    (pushed : m.planner.push b = .ok (number, planner)) :
    Ready settings { m with planner := planner } t
      (fun axis => place axis + (move.steps.get axis).toInt)
      (fun axis => strokes axis + (move.steps.get axis).toInt.natAbs) := by
  obtain ⟨first, onCourse⟩ := readied.onCourse
  refine
    { onCourse := ⟨first, onCourse.queued (Move.regular_build built) pushed⟩
      unbegun := readied.unbegun, single := readied.single, place := ?_, strokes := ?_ }
  · intro axis
    have longer : planner.signedSteps axis = m.planner.signedSteps axis + b.signedSteps axis :=
      BlockQueue.total_push _ pushed
    rw [← readied.place axis, longer, Move.signedSteps_build built, Int.add_assoc]
  · intro axis
    have made : Machine.made { m with planner := planner } t axis = m.made t axis := by
      obtain ⟨_, _, _, rfl⟩ := BlockQueue.push_eq_ok_iff.mp pushed
      cases planned : m.planner.blocks with
      | nil =>
          obtain ⟨unbegun, _⟩ := onCourse.unmoved planned
          rw [made_of_unbegun unbegun, made_of_unbegun unbegun]
      | cons front blocks =>
          have current := BlockQueue.current?_of_planned planned
          rw [made_of_current current, made_of_current]
          rfl
    have longer : planner.steps axis = m.planner.steps axis + (b.steps.get axis).toNat :=
      BlockQueue.total_push _ pushed
    have before := readied.strokes axis
    rw [made, longer, Move.toNat_steps_build built]
    show m.journal.pulses settings.invertMask axis + m.pending settings.invertMask axis + _ = _
    omega

end Ready

section Offer

variable {settings : Settings} {m : Machine (Watched H) capacity} {t : Trip}
  {place : Axis → Int} {strokes : Axis → Nat}

structure Offered (m : Machine (Watched H) capacity) (moves : List Move)
    (m' : Machine (Watched H) capacity) : Prop where
  hardware : m'.hardware = m.hardware
  runtime : m'.runtime = m.runtime
  runState : m'.runState = m.runState
  events : m'.planner.events ≤ m.planner.events + Move.eventsOf moves

theorem offered (m : Machine (Watched H) capacity) (moves : List Move) :
    Offered m moves (m.offer moves).2 := by
  induction moves generalizing m with
  | nil => exact ⟨rfl, rfl, rfl, Nat.le_refl _⟩
  | cons move moves ih =>
      have skipped : Offered m (move :: moves) (m.offer moves).2 := by
        refine { ih m with events := Nat.le_trans (ih m).events ?_ }
        rw [Move.eventsOf, Move.eventsOf, List.map_cons, List.sum_cons]
        omega
      rw [offer]
      split
      · exact skipped
      · next b built =>
        split
        · exact skipped
        · next number planner pushed =>
          have rest := ih { m with planner := planner }
          have longer : planner.events = m.planner.events + b.events.toNat :=
            BlockQueue.total_push _ pushed
          refine ⟨rest.hardware, rest.runtime, rest.runState, Nat.le_trans rest.events ?_⟩
          rw [longer, Move.events_build built, Move.eventsOf, Move.eventsOf, List.map_cons,
            List.sum_cons]
          omega

theorem Ready.offer (readied : Ready settings m t place strokes) (moves : List Move) :
    Ready settings (m.offer moves).2 t
      (fun axis => place axis + Move.total (m.offer moves).1 axis)
      (fun axis => strokes axis + Move.strokes (m.offer moves).1 axis) := by
  induction moves generalizing m place strokes with
  | nil => simpa [Machine.offer, Move.total, Move.strokes] using readied
  | cons move moves ih =>
      rw [Machine.offer]
      split
      · exact ih readied
      · next b built =>
        split
        · exact ih readied
        · next number planner pushed =>
          have rest := ih (readied.queued built pushed)
          simp only [Int.add_assoc, Nat.add_assoc] at rest
          simpa only [Move.total, Move.strokes, List.map_cons, List.sum_cons] using rest

theorem offer_all {moves : List Move} (built : ∀ move ∈ moves, ∃ b, move.build = .ok b)
    (room : m.planner.length + moves.length ≤ capacity) : (m.offer moves).1 = moves := by
  induction moves generalizing m with
  | nil => rfl
  | cons move moves ih =>
      obtain ⟨b, from_move⟩ := built move (List.mem_cons_self ..)
      have eventful : b.events ≠ 0 := by
        intro zero
        have positive := (Move.regular_build from_move).eventful
        rw [zero] at positive
        contradiction
      rw [List.length_cons] at room
      have pushed : m.planner.push b = .ok (m.planner.tail + UInt64.ofNat m.planner.length,
          { m.planner with blocks := m.planner.blocks ++ [b] }) :=
        BlockQueue.push_eq_ok_iff.mpr ⟨eventful, by omega, rfl, rfl⟩
      have longer : ({ m.planner with blocks := m.planner.blocks ++ [b] } :
          BlockQueue capacity).length = m.planner.length + 1 := by
        rw [BlockQueue.length, BlockQueue.length, List.length_append, List.length_singleton]
      simp only [offer, from_move, pushed]
      rw [ih (fun move member => built move (List.mem_cons_of_mem _ member))
        (by rw [longer]; omega)]

end Offer

/-- What is left to do, with the moves that are still to arrive. -/
def Machine.rank (m : Machine H capacity) (t : Trip) (arrivals : List (List Move)) :
    Nat × Nat × Nat :=
  (m.unexecuted t + (arrivals.map Move.eventsOf).sum, m.loadsDue, m.runtime.distance.toNat)

theorem rank_lt {m m' next : Machine (Watched H) capacity} {t t' : Trip}
    {arrivals : List (List Move)} {moves : List Move} (closer : Closer m t m' t')
    (arrived : moves = arrivals.headD []) (offered : Offered m' moves next) :
    Prod.Lex (· < ·) (Prod.Lex (· < ·) (· < ·)) (next.rank t' arrivals.tail)
      (m.rank t arrivals) := by
  have events := offered.events
  have fewer : next.unexecuted t' + (arrivals.tail.map Move.eventsOf).sum ≤
      m'.unexecuted t' + (arrivals.map Move.eventsOf).sum := by
    rw [unexecuted, unexecuted]
    cases arrivals with
    | nil =>
        rw [arrived, List.headD_nil, Move.eventsOf, List.map_nil, List.sum_nil] at events
        rw [List.tail_nil]
        omega
    | cons first rest =>
        rw [arrived, List.headD_cons] at events
        rw [List.tail_cons, List.map_cons, List.sum_cons]
        omega
  have loadsDue : next.loadsDue = m'.loadsDue := by
    rw [Machine.loadsDue, Machine.loadsDue, offered.runtime]
  have distance : next.runtime.distance = m'.runtime.distance := by rw [offered.runtime]
  simp only [Prod.lex_def, rank, loadsDue, distance]
  rcases closer with less | ⟨same, less | ⟨alike, less⟩⟩
  · omega
  · omega
  · omega

section Drive

variable {rig : Rig H} {m : Machine (Watched H) capacity} {place : Axis → Int}
  {strokes : Axis → Nat}

theorem Finished.prepared (finished : Finished rig.settings m place strokes) :
    ∃ p count, m.prepareSegments rig.watched = .ok (count, { m with pipeline := p }) ∧
      Finished rig.settings { m with pipeline := p } place strokes := by
  have regular : ∀ b ∈ m.planner.blocks, b.Regular := by
    rw [finished.planner]
    exact fun _ member => absurd member List.not_mem_nil
  obtain ⟨p, count, filled, done⟩ := prepareSegments_total rig.watched regular
  obtain ⟨first, coherent⟩ := finished.coherent
  exact ⟨p, count, done, { finished with coherent := ⟨first, coherent.fill filled⟩ }⟩

theorem Finished.noted {settings : Settings} {m' : Machine (Watched H) capacity}
    (finished : Finished settings m place strokes) (noted : Noted m m')
    (ticking : m'.ticking = m.ticking) : Finished settings m' place strokes := by
  obtain ⟨first, coherent⟩ := finished.coherent
  refine
    { coherent := ⟨first, coherent.still noted.still⟩, planner := ?_, position := ?_
      pulses := ?_, runState := noted.runState.trans finished.runState
      cycleStop := noted.cycleStop.trans finished.cycleStop
      ticking := ticking.trans finished.ticking }
  · rw [noted.still.planner]
    exact finished.planner
  · rw [noted.still.position]
    exact finished.position
  · intro axis
    rw [noted.pulses]
    exact finished.pulses axis

theorem Finished.drive (finished : Finished rig.settings m place strokes)
    (arrivals : List (List Move)) :
    ∃ final, Machine.drive rig.watched 1 arrivals m = .ok (some ([], final)) ∧
      Finished rig.settings final place strokes := by
  obtain ⟨p, count, done, finished'⟩ := finished.prepared
  refine ⟨_, ?_, finished'⟩
  rw [Machine.drive, done]
  exact if_neg (by rw [finished'.ticking]; exact Bool.false_ne_true)

theorem drive_turn {rig : Rig (Watched H)} {prepared final : Machine (Watched H) capacity}
    {count turns : Nat} {arrivals : List (List Move)} {later : List Move}
    (done : m.prepareSegments rig = .ok (count, prepared)) (ticking : prepared.ticking = true)
    {turned : Machine (Watched H) capacity}
    (turn : (prepared.tick rig).onPulseReset rig = turned)
    (rest : drive rig turns arrivals.tail (turned.offer (turned.arriving arrivals)).2 =
      .ok (some (later, final))) :
    drive rig (turns + 1) arrivals m =
      .ok (some ((turned.offer (turned.arriving arrivals)).1 ++ later, final)) := by
  rw [drive, done]
  simp only [ticking, if_true, turn, rest]

theorem Turned.noted {settings : Settings} {m₁ m₂ : Machine (Watched H) capacity} {t : Trip}
    (turned : Turned settings m t place strokes m₁) (noted : Noted m₁ m₂)
    (ticking : m₂.ticking = m₁.ticking) (runtime : m₂.runtime = m₁.runtime) :
    Turned settings m t place strokes m₂ := by
  cases turned with
  | ends finished => exact .ends (finished.noted noted ticking)
  | @runs t' readied running closer =>
      have running' : Running m₂ :=
        { ticking := ticking.trans running.ticking
          cycle := noted.runState.trans running.cycle
          free := by
            rw [runtime]
            exact running.free }
      apply Turned.runs (readied.noted noted runtime) running'
      rw [Closer, unexecuted, unexecuted, loadsDue, loadsDue] at closer ⊢
      rw [noted.still.planner, runtime]
      exact closer

theorem Running.offered {moves : List Move} {m' : Machine (Watched H) capacity}
    (running : Running m) (offered : Offered m moves m') : Running m' :=
  { ticking := by
      rw [Machine.ticking, journal, offered.hardware]
      exact running.ticking
    cycle := offered.runState.trans running.cycle
    free := by
      rw [offered.runtime]
      exact running.free }

theorem Ready.drive (faultless : rig.Faultless) (floor : 0 < rig.settings.minimumStepRate.toNat)
    {m : Machine (Watched H) capacity} {t : Trip} {place : Axis → Int} {strokes : Axis → Nat}
    (readied : Ready rig.settings m t place strokes) (running : Running m)
    (arrivals : List (List Move)) :
    ∃ turns later final, Machine.drive rig.watched turns arrivals m = .ok (some (later, final)) ∧
      Finished rig.settings final (fun axis => place axis + Move.total later axis)
        (fun axis => strokes axis + Move.strokes later axis) := by
  obtain ⟨p, count, done, prepared, fed⟩ := readied.prepared
  have running' : Running { m with pipeline := p } :=
    ⟨running.ticking, running.cycle, running.free⟩
  have ticked := prepared.tick faultless floor running' fed
  obtain ⟨noted, same, runtime⟩ :=
    faultless.onPulseReset (Machine.tick rig.watched { m with pipeline := p })
  have turn := ticked.noted noted same runtime
  generalize pulsed : (Machine.tick rig.watched { m with pipeline := p }).onPulseReset rig.watched =
    turned at turn
  cases turn with
  | ends finished =>
      -- The tick source has stopped, so nothing arrives, and the next turn ends the loop.
      have nothing : turned.arriving arrivals = [] := by
        rw [arriving, finished.ticking, if_neg Bool.false_ne_true]
      obtain ⟨final, driven, ended⟩ := finished.drive arrivals.tail
      have offered : turned.offer (turned.arriving arrivals) = ([], turned) := by
        rw [nothing]
        rfl
      have driven' := drive_turn done running'.ticking pulsed (by rw [offered]; exact driven)
      rw [offered] at driven'
      refine ⟨2, [], final, driven', ?_⟩
      simpa [Move.total, Move.strokes] using ended
  | @runs t' readied₁ running₁ closer =>
      -- What arrives was counted in the rank before, so that the next turn has less left to do.
      have offered := offered turned (turned.arriving arrivals)
      have arrived : turned.arriving arrivals = arrivals.headD [] := if_pos running₁.ticking
      have lower := rank_lt closer arrived offered
      obtain ⟨turns, later, final, driven, ended⟩ :=
        (readied₁.offer (turned.arriving arrivals)).drive faultless floor
          (running₁.offered offered) arrivals.tail
      refine ⟨turns + 1, _, final, drive_turn done running'.ticking pulsed driven, ?_⟩
      simp only [Move.total_append, Move.strokes_append, ← Int.add_assoc, ← Nat.add_assoc]
      exact ended
termination_by m.rank t arrivals
decreasing_by exact lower

end Drive

/-- The end that moves ask for: where they lead from `origin`, with a pulse for each of their steps,
nothing left to do, and the end of the cycle noticed. -/
structure Completed (settings : Settings) (origin : PerAxis Steps) (moves : List Move)
    (final : Machine (Watched H) capacity) : Prop where
  position : ∀ axis, final.position.get axis = origin.get axis + Move.total moves axis
  pulses : ∀ axis, final.journal.pulses settings.invertMask axis = Move.strokes moves axis
  planner : final.planner.blocks = []
  ring : final.pipeline.segments.toList = []
  runState : final.runState = .idle
  cycleStop : final.cycleStop = true
  ticking : final.ticking = false

theorem Finished.ring {settings : Settings} {m : Machine (Watched H) capacity}
    {place : Axis → Int} {strokes : Axis → Nat} (finished : Finished settings m place strokes) :
    m.pipeline.segments.toList = [] := by
  obtain ⟨first, coherent⟩ := finished.coherent
  cases queued : m.pipeline.segments.toList with
  | nil => rfl
  | cons s segments =>
      obtain ⟨b, blocks, _, planned, _⟩ := coherent.aligned.front queued
      rw [finished.planner] at planned
      contradiction

def Machine.placed (capacity : Nat) (hardware : H) (tail : UInt64) (origin : PerAxis Steps) :
    Machine (Watched H) capacity :=
  { Machine.fresh { hardware := hardware } { tail := tail } with position := origin }

def Machine.loaded (capacity : Nat) (hardware : H) (tail : UInt64) (origin : PerAxis Steps)
    (before : List Move) : List Move × Machine (Watched H) capacity :=
  (placed capacity hardware tail origin).offer before

theorem Ready.placed (settings : Settings) (capacity : Nat) (hardware : H) (tail : UInt64)
    (origin : PerAxis Steps) :
    Ready settings (placed capacity hardware tail origin) { origin := origin }
      (fun axis => origin.get axis) (fun _ => 0) := by
  have onCourse := OnCourse.fresh settings ({ hardware := hardware } : Watched H) origin
    (q := ({ tail := tail } : BlockQueue capacity)) (fun _ member => absurd member List.not_mem_nil)
  exact
    { onCourse := ⟨0, onCourse⟩, unbegun := fun _ => rfl, single := Nat.zero_le 1
      place := fun axis => Int.add_zero _, strokes := fun _ => rfl }

theorem Ready.started {rig : Rig H} (faultless : rig.Faultless)
    {m : Machine (Watched H) capacity} {t : Trip} {place : Axis → Int} {strokes : Axis → Nat}
    (readied : Ready rig.settings m t place strokes) (idle : m.runState = .idle)
    (fresh : m.runtime = {}) :
    ∃ started, m.queue.cycleStart rig.watched = (.ok (), started) ∧
      Ready rig.settings started t place strokes ∧ Running started := by
  have queued : m.queue = { m with runState := .queued } := if_pos idle
  obtain ⟨started, woken, still, staged, busy, cycle, ticking, pulses⟩ :=
    faultless.cycleStart { m with runState := .queued } rfl
  have due : m.runtime.load = .block := congrArg Runtime.load fresh
  have blank : m.runtime.staged = none := congrArg Runtime.staged fresh
  have free : m.runtime.busy = false := congrArg Runtime.busy fresh
  rw [queued]
  refine ⟨started, woken, ?_, ⟨ticking, cycle, busy.trans free⟩⟩
  obtain ⟨first, onCourse⟩ := readied.onCourse
  have asked := onCourse.requestBlock (ne_of_eq_of_ne due (by decide))
  refine readied.congr ⟨first, asked.still (still.after ⟨rfl, rfl, rfl, rfl⟩)⟩ still.planner
    (fun _ => due) fun axis => ?_
  rw [pulses, Ready.pending_of_none staged, Ready.pending_of_none blank]
  rfl

/-- Started with whatever moves the planner took, and driven while further ones arrive, a machine
whose writes are all taken comes to the end that its moves ask for. -/
theorem runs_to_completion (rig : Rig H) (faultless : rig.Faultless)
    (valid : rig.settings.check = .ok ()) (capacity : Nat) (hardware : H) (tail : UInt64)
    (origin : PerAxis Steps) (before : List Move) (arrivals : List (List Move)) :
    ∃ started, (loaded capacity hardware tail origin before).2.queue.cycleStart rig.watched =
        (.ok (), started) ∧
      ∃ turns later final, drive rig.watched turns arrivals started = .ok (some (later, final)) ∧
        Completed rig.settings origin
          ((loaded capacity hardware tail origin before).1 ++ later) final := by
  have offered := offered (placed capacity hardware tail origin) before
  have planned := (Ready.placed rig.settings capacity hardware tail origin).offer before
  rw [loaded]
  generalize (placed capacity hardware tail origin).offer before = planning at offered planned ⊢
  obtain ⟨taken, m⟩ := planning
  obtain ⟨started, woken, readied, running⟩ :=
    planned.started faultless offered.runState offered.runtime
  obtain ⟨turns, later, final, driven, finished⟩ :=
    readied.drive faultless (Settings.floor_pos_of_check valid) running arrivals
  refine ⟨started, woken, turns, later, final, driven, ?_⟩
  have position : ∀ axis, final.position.get axis =
      origin.get axis + Move.total (taken ++ later) axis := by
    intro axis
    calc
      final.position.get axis
      _ = origin.get axis + Move.total taken axis + Move.total later axis := finished.position axis
      _ = origin.get axis + Move.total (taken ++ later) axis := by
        rw [Move.total_append, Int.add_assoc]
  have pulses : ∀ axis, final.journal.pulses rig.settings.invertMask axis =
      Move.strokes (taken ++ later) axis := by
    intro axis
    calc
      final.journal.pulses rig.settings.invertMask axis
      _ = 0 + Move.strokes taken axis + Move.strokes later axis := finished.pulses axis
      _ = Move.strokes (taken ++ later) axis := by rw [Move.strokes_append, Nat.zero_add]
  exact
    { position := position, pulses := pulses, planner := finished.planner, ring := finished.ring
      runState := finished.runState, cycleStop := finished.cycleStop
      ticking := finished.ticking }

theorem uneven_to_completion :
    ∃ (started : Machine (Watched Unit) 4) (later : List Move) (final : Machine (Watched Unit) 4)
        (turns : Nat),
      (loaded 4 () 0 (PerAxis.constant 7) [.uneven]).2.queue.cycleStart
        (Rig.bench {} Sizing.fixed).watched = (.ok (), started) ∧
      drive (Rig.bench {} Sizing.fixed).watched turns [[], [.uneven]] started =
        .ok (some (later, final)) ∧
      Completed (Rig.bench {} Sizing.fixed).settings (PerAxis.constant 7)
        (.uneven :: later) final := by
  have built : ∀ move ∈ [Move.uneven], ∃ b, move.build = .ok b := by
    intro move member
    rw [List.mem_singleton.mp member]
    exact ⟨.uneven, Move.build_uneven⟩
  have taken : (loaded 4 () 0 (PerAxis.constant 7) [.uneven]).1 = [.uneven] :=
    offer_all built (by decide)
  obtain ⟨started, woken, turns, later, final, driven, completed⟩ :=
    runs_to_completion (Rig.bench {} Sizing.fixed) (Rig.faultless_bench {} Sizing.fixed) (by rfl) 4
      () 0 (PerAxis.constant 7) [.uneven] [[], [.uneven]]
  rw [taken] at completed
  exact ⟨started, later, final, turns, woken, driven, completed⟩

end StepPulse
