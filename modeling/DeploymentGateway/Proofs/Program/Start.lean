import DeploymentGateway.Proofs.Program.Change
/-!
How programs start. Until its first call that may change something, a program sees back ends in one
state: every call is answered as it would be at first. So a state of the back ends is a view, an answer
for each call, and a program either ends on it or reaches a call that may change something.
-/

set_option autoImplicit false

namespace DeploymentGateway

/-- What the back ends answer, each call as if it were the first one. -/
abbrev View : Type := (c : Call) → c.Reply

/-- The view of back ends in memory. -/
def Memory.view (now : Time.Instant) (memory : Memory) : View := fun c =>
  (memory.answer now c).1

/-- How far a program comes without a change: to its end, or to a call that may change something. -/
inductive Start (α : Type) where
  | ended (outcome : Outcome α)
  | reached (c : Call) (next : c.Reply → Program α)

/-- The gateway's own call, rather than one of a back end, has failed in some way. -/
@[simp]
def Call.fails (refusal : Failure → Prop) : (c : Call) → c.Reply → Prop
  | .checkpoint, .error failure => refusal failure
  | .connect _, .error failure => refusal failure
  | _, _ => False

namespace Program

variable {α β : Type} {refusal : Failure → Prop} {view : View}

/-- A program does not come up with a failure of some sort: it ends in one at most when a client
could not be had for that. -/
def Avoids (refusal : Failure → Prop) : Program α → Prop
  | done (.ok _) => True
  | done (.error failure) => ¬ refusal failure
  | call c next => ∀ reply, ¬ c.fails refusal reply → (next reply).Avoids refusal

/-- How far a program comes on back ends with a view. -/
def begin (view : View) : Program α → Start α
  | done outcome => .ended outcome
  | call c next => if c.mutates then .reached c next else (next (view c)).begin view

@[simp]
theorem begin_done (outcome : Outcome α) : (done outcome).begin view = .ended outcome :=
  rfl

@[simp]
theorem begin_call (c : Call) (next : c.Reply → Program α) :
    (call c next).begin view =
      if c.mutates then .reached c next else (next (view c)).begin view :=
  rfl

theorem begin_bind (p : Program α) (f : α → Program β) :
    (p >>= f).begin view =
      match p.begin view with
      | .ended (.ok a) => (f a).begin view
      | .ended (.error failure) => .ended (.error failure)
      | .reached c next => .reached c fun reply => next reply >>= f := by
  induction p with
  | done outcome => cases outcome <;> rfl
  | call c next ih =>
    rw [call_bind, begin_call, begin_call]
    split
    · rfl
    · exact ih _

/-- A program run in memory ends where it comes to without a change, or it goes on from there. -/
theorem runInMemory_eq_begin (now : Time.Instant) (p : Program α) (memory : Memory) :
    p.runInMemory now memory =
      match p.begin (memory.view now) with
      | .ended outcome => (outcome, memory)
      | .reached c next => (call c next).runInMemory now memory := by
  induction p with
  | done outcome => rfl
  | call c next ih =>
    by_cases writes : c.mutates = true
    · rw [begin_call, if_pos writes]
    · have kept : c.changes (memory.answer now c).1 = false := by
        rw [Call.changes, Bool.eq_false_iff.mpr writes, Bool.false_and]
      rw [begin_call, if_neg writes, runInMemory_call, Memory.answer_of_not_changes now kept]
      exact ih _

/-- Programs that start in the same way do the same. -/
theorem runInMemory_congr {now : Time.Instant} {memory : Memory} {p q : Program α}
    (same : p.begin (memory.view now) = q.begin (memory.view now)) :
    p.runInMemory now memory = q.runInMemory now memory := by
  rw [runInMemory_eq_begin, same, ← runInMemory_eq_begin]

@[simp]
theorem avoids_done_ok (a : α) : (done (.ok a) : Program α).Avoids refusal :=
  trivial

@[simp]
theorem avoids_done_error (failure : Failure) :
    (done (.error failure) : Program α).Avoids refusal ↔ ¬ refusal failure :=
  Iff.rfl

@[simp]
theorem avoids_call (c : Call) (next : c.Reply → Program α) :
    (call c next).Avoids refusal ↔
      ∀ reply, ¬ c.fails refusal reply → (next reply).Avoids refusal :=
  Iff.rfl

theorem Never.avoids {p : Program α} (never : p.Never refusal) : p.Avoids refusal := by
  induction p with
  | done outcome => cases outcome <;> exact never
  | call c next ih => exact fun reply _ => ih reply (never reply)

theorem avoids_bind {p : Program α} {f : α → Program β} (hp : p.Avoids refusal)
    (hf : ∀ a, (f a).Avoids refusal) : (p >>= f).Avoids refusal := by
  induction p with
  | done outcome =>
    cases outcome with
    | ok a => exact hf a
    | error failure => exact hp
  | call c next ih => exact fun reply spared => ih reply (hp reply spared)

/-- What is made of a program's outcome avoids a failure if it does so for every result and every
failure that the program can have. -/
theorem avoids_attempt_bind {p : Program α} {f : Outcome α → Program β} (hp : p.Avoids refusal)
    (result : ∀ a, (f (.ok a)).Avoids refusal)
    (failed : ∀ failure, ¬ refusal failure → (f (.error failure)).Avoids refusal) :
    (p.attempt >>= f).Avoids refusal := by
  induction p with
  | done outcome =>
    cases outcome with
    | ok a => exact result a
    | error failure => exact failed failure hp
  | call c next ih => exact fun reply spared => ih reply (hp reply spared)

end Program

end DeploymentGateway
