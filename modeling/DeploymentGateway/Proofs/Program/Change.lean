import DeploymentGateway.Proofs.Cluster.Store
import DeploymentGateway.Proofs.Program
import DeploymentGateway.Proofs.Release.Store
/-!
What programs change. A call either reads or may change what a back end holds, and one that a cluster
or a release manager refuses has changed nothing. So of a program that never fails in some way after
a change, a failure of that sort says that everything is as it was: on the back ends in memory, and
for every other answers too, none of the calls up to the failure changed anything.
-/

set_option autoImplicit false

namespace DeploymentGateway

namespace Call

/-- The call may change what a back end holds. -/
def mutates : Call → Bool
  | create _ _ _ => true
  | update _ _ _ => true
  | delete _ _ _ => true
  | install _ => true
  | upgrade _ => true
  | uninstall _ _ => true
  | rollback _ _ _ => true
  | request sent => sent.method != .get
  | checkpoint | connect _ | get _ _ _ | list _ _ _ | podLogs _ _ _ _ | ping | releaseStatus _ _
  | releaseList _ _ | releaseHistory _ _ | releaseVersion => false

/-- A cluster or a release manager has refused to change what it holds. What a server has done with a
request is not known from its answer. -/
def isRefused : (c : Call) → c.Reply → Bool
  | create _ _ _, .error _ => true
  | update _ _ _, .error _ => true
  | delete _ _ _, .error _ => true
  | install _, .error _ => true
  | upgrade _, .error _ => true
  | uninstall _ _, .error _ => true
  | rollback _ _ _, .error _ => true
  | _, _ => false

/-- With this reply the call may have changed what a back end holds. -/
def changes (c : Call) (reply : c.Reply) : Bool :=
  c.mutates && !c.isRefused reply

end Call

/-- What holds of every reply holds of every failure and of every result. -/
theorem forall_reply {ε α : Type} {p : Except ε α → Prop} :
    (∀ reply, p reply) ↔ (∀ error, p (.error error)) ∧ ∀ a, p (.ok a) :=
  ⟨fun h => ⟨fun error => h (.error error), fun a => h (.ok a)⟩, fun h reply => by
    cases reply with
    | error error => exact h.1 error
    | ok a => exact h.2 a⟩

/-- A call with the reply to it. -/
abbrev AnsweredCall : Type := (c : Call) × c.Reply

namespace Memory

/-- Back ends in memory stay as they are after a call that changes nothing. -/
theorem answer_of_not_changes (now : Time.Instant) {c : Call} {memory : Memory}
    (kept : c.changes (memory.answer now c).1 = false) : (memory.answer now c).2 = memory := by
  cases c with
  | create kind «namespace» object =>
    rcases memory.cluster.create_cases now kind «namespace» object with ⟨error, run⟩ | ⟨_, _, run⟩
    · simp [run]
    · simp [run, Call.changes, Call.mutates, Call.isRefused] at kept
  | update kind «namespace» object =>
    rcases memory.cluster.update_cases kind «namespace» object with
      ⟨error, run⟩ | ⟨_, _, _, _, run⟩
    · simp [run]
    · simp [run, Call.changes, Call.mutates, Call.isRefused] at kept
  | delete kind «namespace» name =>
    rcases memory.cluster.delete_cases kind «namespace» name with ⟨error, run⟩ | run
    · simp [run]
    · simp [run, Call.changes, Call.mutates, Call.isRefused] at kept
  | install request =>
    rcases memory.releases.install_cases now request with ⟨error, run⟩ | ⟨_, _, run⟩
    · simp [run]
    · simp [run, Call.changes, Call.mutates, Call.isRefused] at kept
  | upgrade request =>
    rcases memory.releases.upgrade_cases now request with ⟨error, run⟩ | ⟨_, _, run⟩
    · simp [run]
    · simp [run, Call.changes, Call.mutates, Call.isRefused] at kept
  | uninstall «namespace» name =>
    rcases memory.releases.uninstall_cases «namespace» name with ⟨error, run⟩ | ⟨_, run⟩
    · simp [run]
    · simp [run, Call.changes, Call.mutates, Call.isRefused] at kept
  | rollback «namespace» name revision =>
    rcases memory.releases.rollback_cases «namespace» name revision with ⟨error, run⟩ | ⟨_, _, run⟩
    · simp [run]
    · simp [run, Call.changes, Call.mutates, Call.isRefused] at kept
  | _ => rfl

theorem answerTo_of_not_changes (now : Time.Instant) {waits : Bool} {c : Call} {memory : Memory}
    (kept : c.changes (memory.answerTo now waits c).1 = false) :
    (memory.answerTo now waits c).2 = memory := by
  cases c with
  | checkpoint => rfl
  | connect client => rfl
  | _ => exact answer_of_not_changes now kept

end Memory

namespace Program

variable {α β : Type} {refusal : Failure → Prop}

/-- All ways through a program: the exchanges on the way, and the outcome at its end. -/
inductive Trace : Program α → List AnsweredCall → Outcome α → Prop where
  | done (outcome : Outcome α) : Trace (.done outcome) [] outcome
  | call {c : Call} {next : c.Reply → Program α} {exchanges : List AnsweredCall} {outcome : Outcome α}
    (reply : c.Reply) : Trace (next reply) exchanges outcome →
      Trace (.call c next) (⟨c, reply⟩ :: exchanges) outcome

/-- A program makes no call that may change anything. -/
def ReadOnly : Program α → Prop
  | done _ => True
  | call c next => c.mutates = false ∧ ∀ reply, (next reply).ReadOnly

/-- A program never ends in a failure of some sort. -/
def Never (refusal : Failure → Prop) : Program α → Prop
  | done (.ok _) => True
  | done (.error failure) => ¬ refusal failure
  | call _ next => ∀ reply, (next reply).Never refusal

/-- A program never ends in a failure of some sort after a call that may have changed something. -/
def Careful (refusal : Failure → Prop) : Program α → Prop
  | done _ => True
  | call c next => ∀ reply,
    if c.changes reply then (next reply).Never refusal else (next reply).Careful refusal

/-! Programs that only read. -/

@[simp]
theorem readOnly_done (outcome : Outcome α) : (done outcome).ReadOnly :=
  trivial

@[simp]
theorem readOnly_call (c : Call) (next : c.Reply → Program α) :
    (call c next).ReadOnly ↔ c.mutates = false ∧ ∀ reply, (next reply).ReadOnly :=
  Iff.rfl

@[simp]
theorem readOnly_expect {ε : Type} (reply : Except ε α) (failure : ε → Failure) :
    (expect reply failure).ReadOnly := by
  cases reply <;> trivial

@[simp]
theorem readOnly_done_bind (outcome : Outcome α) (f : α → Program β) :
    (done outcome >>= f).ReadOnly ↔ ∀ a, outcome = .ok a → (f a).ReadOnly := by
  cases outcome <;> simp

theorem readOnly_bind {p : Program α} {f : α → Program β} (hp : p.ReadOnly)
    (hf : ∀ a, (f a).ReadOnly) : (p >>= f).ReadOnly := by
  induction p with
  | done outcome =>
    cases outcome with
    | ok a => exact hf a
    | error failure => trivial
  | call c next ih => exact ⟨hp.1, fun reply => ih reply (hp.2 reply)⟩

@[simp]
theorem readOnly_mapM {f : α → Program β} (hf : ∀ a, (f a).ReadOnly) (items : List α) :
    (items.mapM f).ReadOnly := by
  induction items with
  | nil => trivial
  | cons item rest ih =>
    rw [List.mapM_cons]
    exact readOnly_bind (hf item) fun b => readOnly_bind ih fun bs => trivial

/-! Programs that never fail in some way. -/

@[simp]
theorem never_done_ok (a : α) : (done (.ok a) : Program α).Never refusal :=
  trivial

@[simp]
theorem never_done_error (failure : Failure) :
    (done (.error failure) : Program α).Never refusal ↔ ¬ refusal failure :=
  Iff.rfl

@[simp]
theorem never_call (c : Call) (next : c.Reply → Program α) :
    (call c next).Never refusal ↔ ∀ reply, (next reply).Never refusal :=
  Iff.rfl

@[simp]
theorem never_expect {ε : Type} {failure : ε → Failure} (spared : ∀ error, ¬ refusal (failure error))
    (reply : Except ε α) : (expect reply failure).Never refusal := by
  cases reply with
  | ok a => trivial
  | error error => exact spared error

@[simp]
theorem never_attempt (p : Program α) : p.attempt.Never refusal := by
  induction p with
  | done outcome => trivial
  | call c next ih => exact ih

@[simp]
theorem never_done_bind (outcome : Outcome α) (f : α → Program β) :
    (done outcome >>= f).Never refusal ↔
      (∀ failure, outcome = .error failure → ¬ refusal failure) ∧
        ∀ a, outcome = .ok a → (f a).Never refusal := by
  cases outcome <;> simp

theorem never_bind {p : Program α} {f : α → Program β} (hp : p.Never refusal)
    (hf : ∀ a, (f a).Never refusal) : (p >>= f).Never refusal := by
  induction p with
  | done outcome =>
    cases outcome with
    | ok a => exact hf a
    | error failure => exact hp
  | call c next ih => exact fun reply => ih reply (hp reply)

theorem Never.not_refusal {p : Program α} (never : p.Never refusal) {now : Time.Instant}
    {waits : Nat → Bool} {memory after : Memory} {failure : Failure}
    (failed : p.runFor now waits memory = (.error failure, after)) : ¬ refusal failure := by
  induction p generalizing waits memory with
  | done outcome =>
    cases failed
    exact never
  | call c next ih => exact ih _ (never _) failed

theorem Never.not_refusal_of_trace {p : Program α} (never : p.Never refusal)
    {exchanges : List AnsweredCall} {failure : Failure} (trace : p.Trace exchanges (.error failure)) :
    ¬ refusal failure := by
  generalize ended : Except.error failure = outcome at trace
  induction trace with
  | done _ =>
    subst ended
    exact never
  | call reply _ ih => exact ih (never reply) ended

/-! Programs that never fail in some way after a change. -/

@[simp]
theorem careful_done (outcome : Outcome α) : (done outcome).Careful refusal :=
  trivial

@[simp]
theorem careful_done_bind (outcome : Outcome α) (f : α → Program β) :
    (done outcome >>= f).Careful refusal ↔ ∀ a, outcome = .ok a → (f a).Careful refusal := by
  cases outcome <;> simp

/-- After a call that may change something and is not refused no such failure may come. -/
@[simp]
theorem careful_call (c : Call) (next : c.Reply → Program α) :
    (call c next).Careful refusal ↔ ∀ reply,
      if c.changes reply then (next reply).Never refusal else (next reply).Careful refusal :=
  Iff.rfl

theorem careful_call_of_reads {c : Call} {next : c.Reply → Program α} (reads : c.mutates = false)
    (hnext : ∀ reply, (next reply).Careful refusal) : (call c next).Careful refusal := by
  intro reply
  simpa [Call.changes, reads] using hnext reply

theorem ReadOnly.careful {p : Program α} (reads : p.ReadOnly) : p.Careful refusal := by
  induction p with
  | done outcome => trivial
  | call c next ih => exact careful_call_of_reads reads.1 fun reply => ih reply (reads.2 reply)

/-- What is careful is so after everything that only reads. -/
theorem ReadOnly.bind_careful {p : Program α} {f : α → Program β} (reads : p.ReadOnly)
    (hf : ∀ a, (f a).Careful refusal) : (p >>= f).Careful refusal := by
  induction p with
  | done outcome =>
    cases outcome with
    | ok a => exact hf a
    | error failure => trivial
  | call c next ih => exact careful_call_of_reads reads.1 fun reply => ih reply (reads.2 reply)

/-- A careful program that fails in that way has left the back ends in memory as they were. -/
theorem Careful.memory_eq {p : Program α} (careful : p.Careful refusal) {now : Time.Instant}
    {waits : Nat → Bool} {memory after : Memory} {failure : Failure} (refused : refusal failure)
    (failed : p.runFor now waits memory = (.error failure, after)) : after = memory := by
  induction p generalizing waits memory with
  | done outcome =>
    cases failed
    rfl
  | call c next ih =>
    have step := careful (memory.answerTo now (waits 0) c).1
    split at step
    · exact absurd refused (step.not_refusal failed)
    · rename_i kept
      have same := Memory.answerTo_of_not_changes now (Bool.eq_false_iff.mpr kept)
      rw [runFor_call, same] at failed
      exact ih _ step failed

/-- On every way through a careful program that fails in that way, nothing was changed. -/
theorem Careful.not_changes {p : Program α} (careful : p.Careful refusal)
    {exchanges : List AnsweredCall} {failure : Failure} (refused : refusal failure)
    (trace : p.Trace exchanges (.error failure)) :
    ∀ exchange ∈ exchanges, exchange.1.changes exchange.2 = false := by
  generalize ended : Except.error failure = outcome at trace
  induction trace with
  | done _ => exact List.forall_mem_nil _
  | call reply rest ih =>
    subst ended
    have step := careful reply
    split at step
    · exact absurd refused (step.not_refusal_of_trace rest)
    · rename_i kept
      rintro exchange (_ | ⟨_, mem⟩)
      · exact Bool.eq_false_iff.mpr kept
      · exact ih step rfl exchange mem

/-- Run on back ends in memory, a program that fails has left them as they were. -/
def KeepsOnFailure (now : Time.Instant) (memory : Memory) (p : Program α) : Prop :=
  ∀ (waits : Nat → Bool) (failure : Failure) (after : Memory),
    p.runFor now waits memory = (.error failure, after) → after = memory

theorem ReadOnly.bind_keepsOnFailure {p : Program α} {f : α → Program β} {now : Time.Instant}
    {memory : Memory} (reads : p.ReadOnly) (hf : ∀ a, (f a).KeepsOnFailure now memory) :
    (p >>= f).KeepsOnFailure now memory := by
  induction p with
  | done outcome =>
    cases outcome with
    | ok a => exact hf a
    | error failure =>
      intro waits failure after failed
      cases failed
      rfl
  | call c next ih =>
    intro waits failure after failed
    have kept : c.changes (memory.answerTo now (waits 0) c).1 = false := by
      simp [Call.changes, reads.1]
    have same := Memory.answerTo_of_not_changes now kept
    rw [call_bind, runFor_call, same] at failed
    exact ih _ (reads.2 _) _ _ _ failed

end Program

attribute [simp] Call.mutates Call.isRefused Call.changes

end DeploymentGateway
