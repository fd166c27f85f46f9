import StepPulse.Machine.Operation

/-! Runs of a machine, with a rule for what may be performed and an account kept along the way. -/

namespace StepPulse.Machine

variable {H A : Type} {capacity : Nat}

/-- Whether an operation may be performed on a machine. -/
abbrev Rule (H : Type) (capacity : Nat) := Machine H capacity → Operation → Prop

/-- The account after an operation, from the machines before and after it. -/
abbrev Recorder (H : Type) (capacity : Nat) (A : Type) :=
  Machine H capacity → Operation → Machine H capacity → A → A

def unrestricted : Rule H capacity := fun _ _ => True

inductive Run (rig : Rig H) (rule : Rule H capacity) (record : Recorder H capacity A)
    (start : Machine H capacity) (blank : A) : Machine H capacity → A → Prop
  | start : Run rig rule record start blank start blank
  | step {m m' : Machine H capacity} {account : A} {op : Operation} {reply : Reply} :
      Run rig rule record start blank m account → rule m op →
      m.perform rig op = .ok (reply, m') →
      Run rig rule record start blank m' (record m op m' account)

def unrecorded : Recorder H capacity Unit := fun _ _ _ account => account

abbrev Reaches (rig : Rig H) (start m : Machine H capacity) : Prop :=
  Run rig unrestricted unrecorded start () m ()

theorem Run.recorded {B : Type} {rig : Rig H} {rule : Rule H capacity}
    {record : Recorder H capacity A} {start m : Machine H capacity} {blank account : A}
    (other : Recorder H capacity B) (blank' : B)
    (ran : Run rig rule record start blank m account) :
    ∃ account', Run rig rule other start blank' m account' := by
  induction ran with
  | start => exact ⟨blank', .start⟩
  | step _ allowed performed ih =>
      obtain ⟨_, before⟩ := ih
      exact ⟨_, before.step allowed performed⟩

def follow (rig : Rig H) (allowed : Machine H capacity → Operation → Bool)
    (record : Recorder H capacity A) :
    Machine H capacity → A → List Operation → Option (Machine H capacity × A)
  | m, account, [] => some (m, account)
  | m, account, op :: ops =>
    if allowed m op then
      match m.perform rig op with
      | .error _ => none
      | .ok (_, m') => follow rig allowed record m' (record m op m' account) ops
    else none

section Follow

variable {rig : Rig H} {rule : Rule H capacity} {record : Recorder H capacity A}
  {allowed : Machine H capacity → Operation → Bool} {start m : Machine H capacity}
  {blank account : A} {ops : List Operation}

theorem run_of_follow (sound : ∀ m op, allowed m op = true → rule m op)
    {m' : Machine H capacity} {account' : A} (ran : Run rig rule record start blank m account)
    (followed : follow rig allowed record m account ops = some (m', account')) :
    Run rig rule record start blank m' account' := by
  induction ops generalizing m account with
  | nil =>
      obtain ⟨rfl, rfl⟩ := Prod.mk.inj (Option.some.inj followed)
      exact ran
  | cons op ops ih =>
      simp only [follow] at followed
      split at followed
      · next allowed =>
        split at followed
        · contradiction
        · next reply next performed =>
          exact ih (ran.step (sound _ _ allowed) performed) followed
      · contradiction

theorem exists_run (sound : ∀ m op, allowed m op = true → rule m op)
    {shown : Machine H capacity × A → Bool}
    (followed : (follow rig allowed record start blank ops).any shown = true) :
    ∃ m account, Run rig rule record start blank m account ∧ shown (m, account) = true := by
  obtain ⟨⟨m, account⟩, reached, holds⟩ := (Option.any_eq_true _ _).mp followed
  exact ⟨m, account, run_of_follow sound .start reached, holds⟩

end Follow

theorem exists_unrestricted (rig : Rig H) (record : Recorder H capacity A)
    (start : Machine H capacity) (blank : A) (ops : List Operation)
    (shown : Machine H capacity × A → Bool)
    (followed : (follow rig (fun _ _ => true) record start blank ops).any shown = true) :
    ∃ m account, Run rig unrestricted record start blank m account ∧ shown (m, account) = true :=
  exists_run (fun _ _ _ => trivial) followed

theorem run_preserves {rig : Rig H} (Kept : Machine H capacity → Prop) {ops : List Operation}
    {replies : List Reply} {m m' : Machine H capacity}
    (step : ∀ op ∈ ops, ∀ {m m' : Machine H capacity} {reply : Reply}, Kept m →
      m.perform rig op = .ok (reply, m') → Kept m')
    (initially : Kept m) (ran : m.run rig ops = .ok (replies, m')) : Kept m' := by
  induction ops generalizing m replies with
  | nil =>
      obtain ⟨_, rfl⟩ := Prod.mk.inj (Except.ok.inj ran)
      exact initially
  | cons op ops ih =>
      rw [Machine.run] at ran
      split at ran
      · contradiction
      · next reply next performed =>
        have kept := step op List.mem_cons_self initially performed
        split at ran
        · contradiction
        · next replies' last rest =>
          obtain ⟨_, rfl⟩ := Prod.mk.inj (Except.ok.inj ran)
          exact ih (fun op' member => step op' (List.mem_cons_of_mem op member)) kept rest

theorem run_total {rig : Rig H} (Kept : Machine H capacity → Prop) {ops : List Operation}
    (step : ∀ op ∈ ops, ∀ {m : Machine H capacity}, Kept m →
      ∃ reply m', m.perform rig op = .ok (reply, m') ∧ Kept m')
    {m : Machine H capacity} (initially : Kept m) :
    ∃ replies m', m.run rig ops = .ok (replies, m') ∧ Kept m' := by
  induction ops generalizing m with
  | nil => exact ⟨[], m, rfl, initially⟩
  | cons op ops ih =>
      obtain ⟨reply, next, performed, kept⟩ := step op List.mem_cons_self initially
      obtain ⟨replies, last, rest, holds⟩ :=
        ih (fun op' member => step op' (List.mem_cons_of_mem op member)) kept
      refine ⟨reply :: replies, last, ?_, holds⟩
      rw [Machine.run, performed]
      simp only [rest]

end StepPulse.Machine
