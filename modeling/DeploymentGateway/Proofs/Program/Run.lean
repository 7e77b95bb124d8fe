import DeploymentGateway.Proofs.Cluster.Reachable
import DeploymentGateway.Proofs.Refusal.Action
/-!
All the ways in which programs can run on back ends in memory, and the states that they lead to. Before
any call the caller may have given up, and at any moment the cluster may begin to refuse the updates of a
kind. What a run leaves of the objects is found by going through its program, with one rule for each call.
-/

set_option autoImplicit false

namespace DeploymentGateway

open Cluster

/-- A memory whose cluster refuses updates of a kind from now on. -/
def Memory.rejectUpdates (memory : Memory) (kind : ResourceKind) : Memory :=
  { memory with cluster := memory.cluster.rejectUpdates kind }

/-- The objects of a cluster. -/
abbrev Objects : Type := SortedMap ObjectKey Json

namespace Program

variable {α β : Type} {now : Time.Instant}

/-- The ways in which a program can run on a memory, each with its outcome and what it leaves. -/
inductive Runs (now : Time.Instant) : Program α → Memory → Outcome α → Memory → Prop where
  | done (outcome : Outcome α) (memory : Memory) : Runs now (.done outcome) memory outcome memory
  | call {c : Call} {next : c.Reply → Program α} {memory after : Memory} {outcome : Outcome α}
    (waits : Bool) : Runs now (next (memory.answerTo now waits c).1)
        (memory.answerTo now waits c).2 outcome after →
      Runs now (.call c next) memory outcome after
  | reject {p : Program α} {memory after : Memory} {outcome : Outcome α} (kind : ResourceKind) :
    Runs now p (memory.rejectUpdates kind) outcome after → Runs now p memory outcome after

/-- To run for a caller of whom it is known when it gives up is one of the ways. -/
theorem runs_runFor (p : Program α) (waits : Nat → Bool) (memory : Memory) :
    p.Runs now memory (p.runFor now waits memory).1 (p.runFor now waits memory).2 := by
  induction p generalizing waits memory with
  | done outcome => exact .done outcome memory
  | call c next ih => exact .call (waits 0) (ih _ _ _)

theorem runs_runInMemory (p : Program α) (memory : Memory) :
    p.Runs now memory (p.runInMemory now memory).1 (p.runInMemory now memory).2 := by
  rw [← runFor_waiting]
  exact runs_runFor p _ memory

theorem runs_of_runInMemory {p : Program α} {memory after : Memory} {outcome : Outcome α}
    (run : p.runInMemory now memory = (outcome, after)) : p.Runs now memory outcome after := by
  have runs : p.Runs now memory _ _ := runs_runInMemory p memory
  rwa [run] at runs

/-- The ways in which a program can run for a caller who gives up, if at all, only where that is allowed. -/
inductive RunsWhere (now : Time.Instant) (mayGiveUp : Memory → Prop) :
    Program α → Memory → Outcome α → Memory → Prop where
  | done (outcome : Outcome α) (memory : Memory) :
    RunsWhere now mayGiveUp (.done outcome) memory outcome memory
  | call {c : Call} {next : c.Reply → Program α} {memory after : Memory} {outcome : Outcome α}
    (waits : Bool) (allowed : waits = false → mayGiveUp memory) :
      RunsWhere now mayGiveUp (next (memory.answerTo now waits c).1)
        (memory.answerTo now waits c).2 outcome after →
      RunsWhere now mayGiveUp (.call c next) memory outcome after
  | reject {p : Program α} {memory after : Memory} {outcome : Outcome α} (kind : ResourceKind) :
    RunsWhere now mayGiveUp p (memory.rejectUpdates kind) outcome after →
      RunsWhere now mayGiveUp p memory outcome after

/-- A caller who may give up everywhere runs a program in all ways. -/
theorem runs_iff_runsWhere {p : Program α} {memory after : Memory} {outcome : Outcome α} :
    p.Runs now memory outcome after ↔ p.RunsWhere now (fun _ => True) memory outcome after := by
  constructor
  · intro run
    induction run with
    | done outcome memory => exact .done outcome memory
    | call waits _ ih => exact .call waits (fun _ => trivial) ih
    | reject kind _ ih => exact .reject kind ih
  · intro run
    induction run with
    | done outcome memory => exact .done outcome memory
    | call waits _ _ ih => exact .call waits ih
    | reject kind _ ih => exact .reject kind ih

theorem RunsWhere.mono {mayGiveUp allowed : Memory → Prop} {p : Program α} {memory after : Memory}
    {outcome : Outcome α} (run : p.RunsWhere now mayGiveUp memory outcome after)
    (weaker : ∀ memory, mayGiveUp memory → allowed memory) :
    p.RunsWhere now allowed memory outcome after := by
  induction run with
  | done outcome memory => exact .done outcome memory
  | call waits gaveUp _ ih => exact .call waits (fun quit => weaker _ (gaveUp quit)) ih
  | reject kind _ ih => exact .reject kind ih

theorem RunsWhere.runs {mayGiveUp : Memory → Prop} {p : Program α} {memory after : Memory}
    {outcome : Outcome α} (run : p.RunsWhere now mayGiveUp memory outcome after) :
    p.Runs now memory outcome after :=
  runs_iff_runsWhere.mpr (run.mono fun _ _ => trivial)

/-- A caller who always waits gives up nowhere. -/
theorem runsWhere_runInMemory {mayGiveUp : Memory → Prop} (p : Program α) (memory : Memory) :
    p.RunsWhere now mayGiveUp memory (p.runInMemory now memory).1 (p.runInMemory now memory).2 := by
  induction p generalizing memory with
  | done outcome => exact .done outcome memory
  | call c next ih =>
    refine .call true nofun ?_
    cases c <;> exact ih _ _

/-- A run of a program that continues another is a run of the first, and of the second unless the first
fails. -/
theorem RunsWhere.bind_cases {mayGiveUp : Memory → Prop} {p : Program α} {f : α → Program β}
    {memory after : Memory} {outcome : Outcome β}
    (run : (p >>= f).RunsWhere now mayGiveUp memory outcome after) :
    (∃ a between, p.RunsWhere now mayGiveUp memory (.ok a) between ∧
        (f a).RunsWhere now mayGiveUp between outcome after) ∨
      ∃ failure, p.RunsWhere now mayGiveUp memory (.error failure) after ∧
        outcome = .error failure := by
  generalize whole : p >>= f = program at run
  induction run generalizing p with
  | done ended memory =>
    rcases p with (failure | a) | ⟨c, next⟩
    · cases whole
      exact .inr ⟨failure, .done _ memory, rfl⟩
    · rw [done_ok_bind] at whole
      exact .inl ⟨a, memory, .done _ memory, whole ▸ .done ended memory⟩
    · cases whole
  | @call c next memory after outcome waits allowed rest ih =>
    rcases p with (failure | a) | ⟨c', next'⟩
    · cases whole
    · rw [done_ok_bind] at whole
      exact .inl ⟨a, memory, .done _ memory, whole ▸ .call waits allowed rest⟩
    · cases whole
      rcases ih rfl with ⟨a, between, first, second⟩ | ⟨failure, first, failed⟩
      · exact .inl ⟨a, between, .call waits allowed first, second⟩
      · exact .inr ⟨failure, .call waits allowed first, failed⟩
  | reject kind rest ih =>
    rcases ih whole with ⟨a, between, first, second⟩ | ⟨failure, first, failed⟩
    · exact .inl ⟨a, between, .reject kind first, second⟩
    · exact .inr ⟨failure, .reject kind first, failed⟩

theorem Runs.bind_cases {p : Program α} {f : α → Program β} {memory after : Memory}
    {outcome : Outcome β} (run : (p >>= f).Runs now memory outcome after) :
    (∃ a between, p.Runs now memory (.ok a) between ∧ (f a).Runs now between outcome after) ∨
      ∃ failure, p.Runs now memory (.error failure) after ∧ outcome = .error failure := by
  simp only [runs_iff_runsWhere] at run ⊢
  exact run.bind_cases

/-- A run of a program whose failure is a result is a run of that program. -/
theorem Runs.attempt_cases {p : Program α} {memory after : Memory} {outcome : Outcome (Outcome α)}
    (run : p.attempt.Runs now memory outcome after) :
    ∃ inner, p.Runs now memory inner after ∧ outcome = .ok inner := by
  generalize whole : p.attempt = program at run
  induction run generalizing p with
  | done ended memory =>
    rcases p with inner | ⟨c, next⟩
    · cases whole
      exact ⟨inner, .done inner memory, rfl⟩
    · cases whole
  | call waits rest ih =>
    rcases p with inner | ⟨c, next⟩
    · cases whole
    · cases whole
      obtain ⟨inner, run, ended⟩ := ih rfl
      exact ⟨inner, .call waits run, ended⟩
  | reject kind rest ih =>
    obtain ⟨inner, run, ended⟩ := ih whole
    exact ⟨inner, .reject kind run, ended⟩

/-- What every call keeps, a run keeps. -/
theorem Runs.keeps (inv : Memory → Prop)
    (calls : ∀ waits c memory, inv memory → inv (memory.answerTo now waits c).2)
    (rejects : ∀ kind memory, inv memory → inv (memory.rejectUpdates kind))
    {p : Program α} {memory after : Memory} {outcome : Outcome α}
    (run : p.Runs now memory outcome after) (kept : inv memory) : inv after := by
  induction run with
  | done outcome memory => exact kept
  | call waits rest ih => exact ih (calls _ _ _ kept)
  | reject kind rest ih => exact ih (rejects _ _ kept)

/-! What runs leave, as far as one part of the memory tells. -/

end Program

/-- A part of the memory that does not tell which updates the cluster refuses. -/
structure Aspect (σ : Type) where
  read : Memory → σ
  steady : ∀ memory kind, read (memory.rejectUpdates kind) = read memory

namespace Aspect

/-- The objects of the cluster. -/
def objects : Aspect Objects :=
  ⟨fun memory => memory.cluster.objects, fun _ _ => rfl⟩

/-- The releases of the manager. -/
def releases : Aspect Release.Store :=
  ⟨fun memory => memory.releases, fun _ _ => rfl⟩

end Aspect

namespace Program

variable {α β σ : Type} {now : Time.Instant} {aspect : Aspect σ} {s : σ}
  {post : Outcome α → σ → Prop}

/-- On every memory that agrees in some part, each run of a program ends in an outcome and leaves of that
part what is told. -/
def Ensures (aspect : Aspect σ) (now : Time.Instant) (p : Program α) (s : σ)
    (post : Outcome α → σ → Prop) : Prop :=
  ∀ memory outcome after, aspect.read memory = s → p.Runs now memory outcome after →
    post outcome (aspect.read after)

theorem Ensures.done {outcome : Outcome α} (h : post outcome s) :
    (Program.done outcome).Ensures aspect now s post := by
  intro memory ended after same run
  generalize whole : Program.done outcome = program at run
  induction run with
  | done _ memory =>
    cases whole
    exact same ▸ h
  | call waits rest ih => cases whole
  | @reject _ memory _ _ kind rest ih => exact ih ((aspect.steady memory kind).trans same) whole

/-- A program with a call on top goes on from the reply, whoever gives it. -/
theorem Ensures.call {c : Call} {next : c.Reply → Program α}
    (h : ∀ (memory : Memory) (waits : Bool), aspect.read memory = s →
      (next (memory.answerTo now waits c).1).Ensures aspect now
        (aspect.read (memory.answerTo now waits c).2) post) :
    (Program.call c next).Ensures aspect now s post := by
  intro memory outcome after same run
  generalize whole : Program.call c next = program at run
  induction run with
  | done _ memory => cases whole
  | @call c next memory after outcome waits rest ih =>
    cases whole
    exact h memory waits same _ _ _ rfl rest
  | @reject _ memory _ _ kind rest ih => exact ih ((aspect.steady memory kind).trans same) whole

/-- A call that leaves the part as it is may be answered in any way. -/
theorem Ensures.aside {c : Call} {next : c.Reply → Program α}
    (kept : ∀ memory waits, aspect.read (memory.answerTo now waits c).2 = aspect.read memory)
    (h : ∀ reply, (next reply).Ensures aspect now s post) :
    (Program.call c next).Ensures aspect now s post := by
  refine Ensures.call fun memory waits same => ?_
  rw [kept, same]
  exact h _

theorem Ensures.mono {p : Program α} (h : p.Ensures aspect now s post)
    {post' : Outcome α → σ → Prop}
    (weaker : ∀ outcome after, post outcome after → post' outcome after) :
    p.Ensures aspect now s post' :=
  fun memory outcome after same run => weaker _ _ (h memory outcome after same run)

theorem Ensures.and {p : Program α} {post' : Outcome α → σ → Prop} (h : p.Ensures aspect now s post)
    (h' : p.Ensures aspect now s post') :
    p.Ensures aspect now s fun outcome after => post outcome after ∧ post' outcome after :=
  fun memory outcome after same run => ⟨h memory outcome after same run, h' memory outcome after same run⟩

theorem Ensures.bind {p : Program α} (h : p.Ensures aspect now s post) {f : α → Program β}
    {post' : Outcome β → σ → Prop}
    (next : ∀ a between, post (.ok a) between → (f a).Ensures aspect now between post')
    (fails : ∀ failure after, post (.error failure) after → post' (.error failure) after) :
    (p >>= f).Ensures aspect now s post' := by
  intro memory outcome after same run
  rcases run.bind_cases with ⟨a, between, first, second⟩ | ⟨failure, first, rfl⟩
  · exact next a _ (h memory _ between same first) between outcome after rfl second
  · exact fails failure _ (h memory _ after same first)

theorem Ensures.attempt {p : Program α} (h : p.Ensures aspect now s post) :
    p.attempt.Ensures aspect now s fun outcome after => ∃ inner, outcome = .ok inner ∧
      post inner after := by
  intro memory outcome after same run
  obtain ⟨inner, run, ended⟩ := run.attempt_cases
  exact ⟨inner, ended, h memory inner after same run⟩

/-- A check either fails and leaves everything as it is, or the program goes on with its result. -/
theorem Ensures.check {outcome : Outcome β} {f : β → Program α}
    (failed : ∀ failure, outcome = .error failure → post (.error failure) s)
    (next : ∀ b, outcome = .ok b → (f b).Ensures aspect now s post) :
    (ofOutcome outcome >>= f).Ensures aspect now s post := by
  rcases outcome with failure | b
  · exact .done (failed failure rfl)
  · exact next b rfl

theorem Ensures.checkpoint {f : Unit → Program α}
    (cancelled : post (.error .cancelled) s) (next : (f ()).Ensures aspect now s post) :
    (Program.checkpoint >>= f).Ensures aspect now s post := by
  refine Ensures.call fun memory waits same => ?_
  subst same
  rcases waits with _ | _
  · exact .done cancelled
  · exact next

theorem Ensures.connect {client : Client} {f : Unit → Program α}
    (cancelled : post (.error .cancelled) s) (next : (f ()).Ensures aspect now s post) :
    (Program.connect client >>= f).Ensures aspect now s post := by
  refine Ensures.call fun memory waits same => ?_
  subst same
  rcases waits with _ | _
  · exact .done cancelled
  · exact next

/-- A program that only reads leaves everything. -/
theorem ReadOnly.read_of_runs {p : Program α} (reads : p.ReadOnly) (aspect : Aspect σ)
    {memory after : Memory} {outcome : Outcome α} (run : p.Runs now memory outcome after) :
    aspect.read after = aspect.read memory := by
  induction run with
  | done outcome memory => rfl
  | @call c next memory after outcome waits rest ih =>
    have unchanged : c.changes (memory.answerTo now waits c).1 = false := by
      rw [Call.changes, reads.1, Bool.false_and]
    rw [Memory.answerTo_of_not_changes now unchanged] at ih
    exact ih (reads.2 _)
  | reject kind rest ih => exact (ih reads).trans (aspect.steady _ kind)

theorem ReadOnly.ensures {p : Program α} (reads : p.ReadOnly) (s : σ) :
    p.Ensures aspect now s fun _ after => after = s :=
  fun _ _ _ same run => (reads.read_of_runs aspect run).trans same

/-! The calls to the cluster, and what they do to its objects. -/

section

variable {objects : Objects} {post : Outcome α → Objects → Prop}

private theorem ensures_perform {c : Call} {f : c.Reply → Program α}
    (h : ∀ (memory : Memory) (waits : Bool), memory.cluster.objects = objects →
      (f (memory.answerTo now waits c).1).Ensures .objects now
        (memory.answerTo now waits c).2.cluster.objects post) :
    (Program.perform c >>= f).Ensures .objects now objects post :=
  Ensures.call h

variable {kind : ResourceKind} {«namespace» name : String}

theorem Ensures.get {f : Except ClusterError Json → Program α}
    (absent : objects.get? (Store.key kind «namespace» name) = none →
      (f (.error (.notFound kind.kind name))).Ensures .objects now objects post)
    (present : ∀ object, objects.get? (Store.key kind «namespace» name) = some object →
      (f (.ok object)).Ensures .objects now objects post) :
    (Program.get kind «namespace» name >>= f).Ensures .objects now objects post := by
  refine ensures_perform fun memory waits same => ?_
  subst same
  rcases found : memory.cluster.object? kind «namespace» name with _ | object
  · simpa [Store.get, found] using absent found
  · simpa [Store.get, found] using present object found

/-- What is listed depends on the objects alone. -/
theorem Ensures.list {space selector : Option String} {f : Except ClusterError (List Json) → Program α}
    (h : (f (.ok (Store.list { Store.empty with objects } kind space selector))).Ensures .objects now
      objects post) :
    (Program.list kind space selector >>= f).Ensures .objects now objects post := by
  refine ensures_perform fun memory waits same => ?_
  subst same
  exact h

theorem Ensures.create {object : Json} {f : Except ClusterError Json → Program α}
    (fails : ∀ error, (f (.error error)).Ensures .objects now objects post)
    (made : ∀ (store : Store) new, objects.get? (Store.key kind «namespace» (nameOf object)) = none →
      new = store.written (Store.admitted now kind «namespace» object) →
      (f (.ok new)).Ensures .objects now
        (objects.insert (Store.key kind «namespace» (nameOf object)) new) post) :
    (Program.create kind «namespace» object >>= f).Ensures .objects now objects post := by
  refine ensures_perform fun memory waits same => ?_
  subst same
  rcases memory.cluster.create_cases now kind «namespace» object with ⟨error, run⟩ | ⟨_, free, run⟩
  · simpa [run] using fails error
  · simpa [run] using made memory.cluster _ free rfl

theorem Ensures.update {object : Json} {f : Except ClusterError Json → Program α}
    (fails : ∀ error, (f (.error error)).Ensures .objects now objects post)
    (made : ∀ (store : Store) current new,
      objects.get? (Store.key kind «namespace» (nameOf object)) = some current →
      new = store.written (Store.succeeding current object) →
      (f (.ok new)).Ensures .objects now
        (objects.insert (Store.key kind «namespace» (nameOf object)) new) post) :
    (Program.update kind «namespace» object >>= f).Ensures .objects now objects post := by
  refine ensures_perform fun memory waits same => ?_
  subst same
  rcases memory.cluster.update_cases kind «namespace» object with
    ⟨error, run⟩ | ⟨current, found, _, _, run⟩
  · simpa [run] using fails error
  · simpa [run] using made memory.cluster current _ found rfl

theorem Ensures.delete {f : Except ClusterError Unit → Program α}
    (absent : objects.get? (Store.key kind «namespace» name) = none →
      (f (.error (.notFound kind.kind name))).Ensures .objects now objects post)
    (present : ∀ object, objects.get? (Store.key kind «namespace» name) = some object →
      (f (.ok ())).Ensures .objects now (objects.erase (Store.key kind «namespace» name)) post) :
    (Program.delete kind «namespace» name >>= f).Ensures .objects now objects post := by
  refine ensures_perform fun memory waits same => ?_
  subst same
  rcases found : memory.cluster.object? kind «namespace» name with _ | object
  · simpa [Store.delete_of_absent _ _ _ found] using absent found
  · have there : (memory.cluster.object? kind «namespace» name).isSome := by
      rw [found]
      rfl
    simpa [Store.delete_of_present _ _ _ there] using present object found

end

end Program

/-! The states that actions lead to. -/

/-- The states that the actions of a back end lead to from empty back ends. -/
inductive Reached (operations : Time.Instant → Operations) : Memory → Prop where
  | empty : Reached operations .empty
  | run {memory after : Memory} (now : Time.Instant) (action : Action)
    {outcome : Outcome action.Result} : Reached operations memory →
      (action.program (operations now)).Runs now memory outcome after → Reached operations after

/-- What an action leaves whose caller always waits is reached. -/
theorem Reached.runInMemory {operations : Time.Instant → Operations} {memory : Memory}
    (reached : Reached operations memory) (now : Time.Instant) (action : Action) :
    Reached operations ((action.program (operations now)).runInMemory now memory).2 :=
  .run now action reached (Program.runs_runInMemory _ memory)

theorem Memory.reachable_answerTo (now : Time.Instant) (waits : Bool) (c : Call) (memory : Memory)
    (reachable : memory.cluster.Reachable) :
    (memory.answerTo now waits c).2.cluster.Reachable := by
  cases c with
  | create kind «namespace» object => exact .create now kind «namespace» object reachable
  | update kind «namespace» object => exact .update kind «namespace» object reachable
  | delete kind «namespace» name => exact .delete kind «namespace» name reachable
  | _ => exact reachable

/-- The stores of reached states are ones that the cluster can get into. -/
theorem Reached.reachable {operations : Time.Instant → Operations} {memory : Memory}
    (reached : Reached operations memory) : memory.cluster.Reachable := by
  induction reached with
  | empty => exact .empty
  | run now action _ run reachable =>
    exact run.keeps (fun memory => memory.cluster.Reachable) (Memory.reachable_answerTo now)
      (fun kind _ kept => .rejectUpdates kind kept) reachable

end DeploymentGateway
