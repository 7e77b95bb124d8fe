import DeploymentGateway.Proofs.Program
/-!
Programs that differ in the words of their failures at most. They make the same calls and go on alike from
every reply, so a back end cannot tell them apart, and a caller only by the texts of failures.
-/

set_option autoImplicit false

namespace DeploymentGateway

/-- Two outcomes are the same result, or failures of the same kind. -/
inductive SameAnswer {α : Type} : Outcome α → Outcome α → Prop where
  | ok (a : α) : SameAnswer (.ok a) (.ok a)
  | error {failure other : Failure} (same : failure.kind = other.kind) :
    SameAnswer (.error failure) (.error other)

/-- Two runs end in the same answer and leave the same. -/
structure SameRun {α : Type} (run other : Outcome α × Memory) : Prop where
  answer : SameAnswer run.1 other.1
  memory : run.2 = other.2

@[refl]
theorem SameAnswer.refl {α : Type} : (outcome : Outcome α) → SameAnswer outcome outcome
  | .ok a => .ok a
  | .error _ => .error rfl

namespace Program

variable {α β : Type}

/-- Two programs make the same calls and end in the same answers. -/
inductive Alike : Program α → Program α → Prop where
  | done {outcome other : Outcome α} (same : SameAnswer outcome other) :
    Alike (.done outcome) (.done other)
  | call {c : Call} {next other : c.Reply → Program α}
    (alike : ∀ reply, Alike (next reply) (other reply)) : Alike (.call c next) (.call c other)

namespace Alike

@[refl]
theorem refl (p : Program α) : p.Alike p := by
  induction p with
  | done outcome => exact .done (.refl outcome)
  | call c next ih => exact .call ih

theorem bind {p q : Program α} (alike : p.Alike q) {f g : α → Program β}
    (next : ∀ a, (f a).Alike (g a)) : (p >>= f).Alike (q >>= g) := by
  induction alike with
  | done same =>
    cases same with
    | ok a => exact next a
    | error same => exact .done (.error same)
  | call _ ih => exact .call ih

theorem perform {c : Call} {f g : c.Reply → Program α} (next : ∀ reply, (f reply).Alike (g reply)) :
    (Program.perform c >>= f).Alike (Program.perform c >>= g) :=
  .bind (.refl _) next

/-- A reply that is used alike, with errors told as failures of one kind. -/
theorem expect {ε : Type} {reply : Except ε α} {failure other : ε → Failure}
    (same : ∀ error, (failure error).kind = (other error).kind) :
    (Program.expect reply failure).Alike (Program.expect reply other) := by
  cases reply with
  | ok a => exact .refl _
  | error error => exact .done (.error (same error))

/-- Run on back ends in memory they end in the same answer and leave the same. -/
theorem sameRun {p q : Program α} (alike : p.Alike q) (now : Time.Instant) (memory : Memory) :
    SameRun (p.runInMemory now memory) (q.runInMemory now memory) := by
  induction alike generalizing memory with
  | done same => exact ⟨same, rfl⟩
  | call _ ih => exact ih _ _

end Alike

end Program

theorem kind_deploymentFailure (backend operation id other : String) (error : Cluster.ClusterError) :
    (deploymentFailure backend operation id error).kind =
      (deploymentFailure backend operation other error).kind := by
  cases error <;> rfl

end DeploymentGateway
