import DeploymentGateway.Proofs.Program.Run
/-!
What programs leave whose callers give up only where that is allowed. Until a program has done anything
that matters, what is known of all its runs is enough; from there on it is gone through call by call.
-/

set_option autoImplicit false

namespace DeploymentGateway

open Cluster

/-- The objects of the cluster together with the releases of the manager. -/
def Aspect.both : Aspect (Objects × Release.Store) :=
  ⟨fun memory => (memory.cluster.objects, memory.releases), fun _ _ => rfl⟩

namespace Program

variable {α β σ : Type} {now : Time.Instant} {aspect : Aspect σ} {mayGiveUp : σ → Prop} {s : σ}
  {post : Outcome α → σ → Prop}

/-- On every memory that agrees in some part, each run of a program whose caller gives up only where that
is allowed ends in an outcome and leaves of that part what is told. -/
def EnsuresWhere (aspect : Aspect σ) (now : Time.Instant) (mayGiveUp : σ → Prop) (p : Program α) (s : σ)
    (post : Outcome α → σ → Prop) : Prop :=
  ∀ memory outcome after, aspect.read memory = s →
    p.RunsWhere now (fun memory => mayGiveUp (aspect.read memory)) memory outcome after →
      post outcome (aspect.read after)

theorem EnsuresWhere.done {outcome : Outcome α} (h : post outcome s) :
    (Program.done outcome).EnsuresWhere aspect now mayGiveUp s post :=
  fun memory ended after same run => Ensures.done h memory ended after same run.runs

/-- A program with a call on top goes on from the reply. If its caller has given up, that was allowed. -/
theorem EnsuresWhere.call {c : Call} {next : c.Reply → Program α}
    (h : ∀ (memory : Memory) (waits : Bool), aspect.read memory = s → (waits = false → mayGiveUp s) →
      (next (memory.answerTo now waits c).1).EnsuresWhere aspect now mayGiveUp
        (aspect.read (memory.answerTo now waits c).2) post) :
    (Program.call c next).EnsuresWhere aspect now mayGiveUp s post := by
  intro memory outcome after same run
  generalize whole : Program.call c next = program at run
  induction run with
  | done _ memory => cases whole
  | @call c next memory after outcome waits allowed rest ih =>
    cases whole
    subst same
    exact h memory waits rfl allowed _ _ _ rfl rest
  | @reject _ memory _ _ kind rest ih => exact ih ((aspect.steady memory kind).trans same) whole

/-- A client is there unless the caller has given up where that is allowed. -/
theorem EnsuresWhere.connect {client : Client} {next : Outcome Unit → Program α}
    (cancelled : mayGiveUp s → (next (.error .cancelled)).EnsuresWhere aspect now mayGiveUp s post)
    (connected : (next (.ok ())).EnsuresWhere aspect now mayGiveUp s post) :
    (Program.call (.connect client) next).EnsuresWhere aspect now mayGiveUp s post := by
  refine .call fun memory waits same allowed => ?_
  subst same
  rcases waits with _ | _
  · exact cancelled (allowed rfl)
  · exact connected

theorem EnsuresWhere.mono {p : Program α} (h : p.EnsuresWhere aspect now mayGiveUp s post)
    {post' : Outcome α → σ → Prop} (weaker : ∀ outcome after, post outcome after → post' outcome after) :
    p.EnsuresWhere aspect now mayGiveUp s post' :=
  fun memory outcome after same run => weaker _ _ (h memory outcome after same run)

theorem EnsuresWhere.bind {p : Program α} (h : p.EnsuresWhere aspect now mayGiveUp s post)
    {f : α → Program β} {post' : Outcome β → σ → Prop}
    (next : ∀ a between, post (.ok a) between →
      (f a).EnsuresWhere aspect now mayGiveUp between post')
    (fails : ∀ failure after, post (.error failure) after → post' (.error failure) after) :
    (p >>= f).EnsuresWhere aspect now mayGiveUp s post' := by
  intro memory outcome after same run
  rcases run.bind_cases with ⟨a, between, first, second⟩ | ⟨failure, first, rfl⟩
  · exact next a _ (h memory _ between same first) between outcome after rfl second
  · exact fails failure _ (h memory _ after same first)

/-- A check either fails and leaves everything as it is, or the program goes on with its result. -/
theorem EnsuresWhere.check {outcome : Outcome β} {f : β → Program α}
    (failed : ∀ failure, outcome = .error failure → post (.error failure) s)
    (next : ∀ b, outcome = .ok b → (f b).EnsuresWhere aspect now mayGiveUp s post) :
    (ofOutcome outcome >>= f).EnsuresWhere aspect now mayGiveUp s post := by
  rcases outcome with failure | b
  · exact .done (failed failure rfl)
  · exact next b rfl

/-- A program goes on where it was after one that only reads, unless that fails. -/
theorem EnsuresWhere.reads {p : Program β} (reads : p.ReadOnly) {f : β → Program α}
    (fails : ∀ failure, post (.error failure) s)
    (next : ∀ b, (f b).EnsuresWhere aspect now mayGiveUp s post) :
    (p >>= f).EnsuresWhere aspect now mayGiveUp s post := by
  intro memory outcome after same run
  rcases run.bind_cases with ⟨b, between, first, second⟩ | ⟨failure, first, rfl⟩
  · exact next b between outcome after
      ((reads.read_of_runs aspect first.runs).trans same) second
  · rw [reads.read_of_runs aspect first.runs, same]
    exact fails failure

/-- What every run of a program leaves, the runs leave whose callers give up only where allowed. -/
theorem Ensures.where {p : Program α} (h : p.Ensures aspect now s post) :
    p.EnsuresWhere aspect now mayGiveUp s post :=
  fun memory outcome after same run => h memory outcome after same run.runs

/-- A caller who may give up everywhere. -/
theorem EnsuresWhere.ensures {p : Program α}
    (h : p.EnsuresWhere aspect now (fun _ => True) s post) : p.Ensures aspect now s post :=
  fun memory outcome after same run => h memory outcome after same (runs_iff_runsWhere.mp run)

/-- A program that only reads tells of the releases what every run on them does. -/
theorem Ensures.both_of_releases {p : Program α} (reads : p.ReadOnly) {objects : Objects}
    {store : Release.Store} {post : Outcome α → Release.Store → Prop}
    (h : p.Ensures .releases now store post) :
    p.Ensures .both now (objects, store) fun outcome after =>
      after = (objects, store) ∧ post outcome store := by
  intro memory outcome after same run
  have unchanged := reads.read_of_runs Aspect.both run
  have releases : after.releases = store := congrArg Prod.snd (unchanged.trans same)
  refine ⟨unchanged.trans same, ?_⟩
  rw [← releases]
  exact h memory outcome after (congrArg Prod.snd same) run

/-- And of the objects. -/
theorem Ensures.both_of_objects {p : Program α} (reads : p.ReadOnly) {objects : Objects}
    {store : Release.Store} {post : Outcome α → Objects → Prop}
    (h : p.Ensures .objects now objects post) :
    p.Ensures .both now (objects, store) fun outcome after =>
      after = (objects, store) ∧ post outcome objects := by
  intro memory outcome after same run
  have unchanged := reads.read_of_runs Aspect.both run
  have objects_eq : after.cluster.objects = objects := congrArg Prod.fst (unchanged.trans same)
  refine ⟨unchanged.trans same, ?_⟩
  rw [← objects_eq]
  exact h memory outcome after (congrArg Prod.fst same) run

end Program

end DeploymentGateway
