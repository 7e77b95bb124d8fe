import DeploymentGateway.Memory
/-!
Laws of programs. Programs are a lawful monad, and to run one that continues another is to run the first
and then the second on what the first left behind. Besides the caller who always waits there is one who
may give up before any call.
-/

set_option autoImplicit false

namespace DeploymentGateway

theorem Outcome.bind_eq_ok {α β : Type} {x : Outcome α} {f : α → Outcome β} {b : β} :
    x >>= f = .ok b ↔ ∃ a, x = .ok a ∧ f a = .ok b := by
  constructor
  · intro h
    cases x with
    | ok a => exact ⟨a, rfl, h⟩
    | error failure => cases h
  · rintro ⟨a, rfl, h⟩
    exact h

attribute [simp] Memory.answer Memory.withCluster Memory.withReleases

/-- The reply to a call whose caller may have given up. -/
def Memory.answerTo (now : Time.Instant) (waits : Bool) (c : Call) (memory : Memory) :
    c.Reply × Memory :=
  match c with
  | .checkpoint => (if waits then .ok () else .error .cancelled, memory)
  | .connect _ => (if waits then .ok () else .error .cancelled, memory)
  | c => memory.answer now c

namespace Memory

variable (now : Time.Instant) (waits : Bool) (memory : Memory)

@[simp]
theorem answerTo_checkpoint :
    memory.answerTo now waits .checkpoint =
      (if waits then .ok () else .error .cancelled, memory) :=
  rfl

@[simp]
theorem answerTo_connect (client : Client) :
    memory.answerTo now waits (.connect client) =
      (if waits then .ok () else .error .cancelled, memory) :=
  rfl

@[simp]
theorem answerTo_get (kind : Cluster.ResourceKind) («namespace» name : String) :
    memory.answerTo now waits (.get kind «namespace» name) =
      memory.answer now (.get kind «namespace» name) :=
  rfl

@[simp]
theorem answerTo_create (kind : Cluster.ResourceKind) («namespace» : String) (object : Json) :
    memory.answerTo now waits (.create kind «namespace» object) =
      memory.answer now (.create kind «namespace» object) :=
  rfl

@[simp]
theorem answerTo_update (kind : Cluster.ResourceKind) («namespace» : String) (object : Json) :
    memory.answerTo now waits (.update kind «namespace» object) =
      memory.answer now (.update kind «namespace» object) :=
  rfl

@[simp]
theorem answerTo_delete (kind : Cluster.ResourceKind) («namespace» name : String) :
    memory.answerTo now waits (.delete kind «namespace» name) =
      memory.answer now (.delete kind «namespace» name) :=
  rfl

end Memory

namespace Program

variable {α β γ : Type}

/-- Run a program on back ends in memory for a caller of whom it is known for each call, counted from
the first, whether it still waits then. -/
def runFor (now : Time.Instant) : (Nat → Bool) → Program α → Memory → Outcome α × Memory
  | _, done outcome, memory => (outcome, memory)
  | waits, call c next, memory =>
    let (reply, memory) := memory.answerTo now (waits 0) c
    runFor now (fun n => waits (n + 1)) (next reply) memory

private theorem bind_done (p : Program α) : p.bind (fun a => done (.ok a)) = p := by
  induction p with
  | done outcome => cases outcome <;> rfl
  | call c next ih => simp [Program.bind, ih]

private theorem bind_bind (p : Program α) (f : α → Program β) (g : β → Program γ) :
    (p.bind f).bind g = p.bind fun a => (f a).bind g := by
  induction p with
  | done outcome => cases outcome <;> rfl
  | call c next ih => simp [Program.bind, ih]

instance : LawfulMonad Program :=
  LawfulMonad.mk' Program bind_done (fun _ _ => rfl) bind_bind

/-! Programs in the form of trees: every operation on them is carried out until a call is on top. -/

attribute [simp] ofOutcome fail perform checkpoint connect get list create update delete podLogs ping
  install upgrade uninstall rollback releaseStatus releaseList releaseHistory releaseVersion request

@[simp]
theorem pure_eq_done (a : α) : (pure a : Program α) = done (.ok a) :=
  rfl

@[simp]
theorem call_bind (c : Call) (next : c.Reply → Program α) (f : α → Program β) :
    call c next >>= f = call c fun reply => next reply >>= f :=
  rfl

@[simp]
theorem done_ok_bind (a : α) (f : α → Program β) : (done (.ok a) : Program α) >>= f = f a :=
  rfl

@[simp]
theorem done_error_bind (failure : Failure) (f : α → Program β) :
    (done (.error failure) : Program α) >>= f = done (.error failure) :=
  rfl

@[simp]
theorem expect_ok {ε : Type} (a : α) (failure : ε → Failure) :
    expect (.ok a) failure = done (.ok a) :=
  rfl

@[simp]
theorem expect_error {ε : Type} (error : ε) (failure : ε → Failure) :
    (expect (.error error) failure : Program α) = done (.error (failure error)) :=
  rfl

@[simp]
theorem runFor_done (now : Time.Instant) (waits : Nat → Bool) (outcome : Outcome α)
    (memory : Memory) : (done outcome).runFor now waits memory = (outcome, memory) :=
  rfl

@[simp]
theorem runFor_call (now : Time.Instant) (waits : Nat → Bool) (c : Call)
    (next : c.Reply → Program α) (memory : Memory) :
    (call c next).runFor now waits memory =
      (next (memory.answerTo now (waits 0) c).1).runFor now (fun n => waits (n + 1))
        (memory.answerTo now (waits 0) c).2 :=
  rfl

@[simp]
theorem runInMemory_done (now : Time.Instant) (outcome : Outcome α) (memory : Memory) :
    (done outcome).runInMemory now memory = (outcome, memory) :=
  rfl

@[simp]
theorem runInMemory_call (now : Time.Instant) (c : Call) (next : c.Reply → Program α)
    (memory : Memory) :
    (call c next).runInMemory now memory =
      (next (memory.answer now c).1).runInMemory now (memory.answer now c).2 :=
  rfl

/-- A caller who always waits is the one whose programs run in memory. -/
theorem runFor_waiting (now : Time.Instant) (p : Program α) (memory : Memory) :
    p.runFor now (fun _ => true) memory = p.runInMemory now memory := by
  induction p generalizing memory with
  | done outcome => rfl
  | call c next ih => cases c <;> exact ih _ _

/-- To run a program that continues another is to run one after the other. -/
theorem runInMemory_bind (now : Time.Instant) (p : Program α) (f : α → Program β)
    (memory : Memory) :
    (p >>= f).runInMemory now memory =
      match p.runInMemory now memory with
      | (.ok a, memory) => (f a).runInMemory now memory
      | (.error failure, memory) => (.error failure, memory) := by
  induction p generalizing memory with
  | done outcome => cases outcome <;> rfl
  | call c next ih => exact ih _ _

theorem runInMemory_attempt (now : Time.Instant) (p : Program α) (memory : Memory) :
    p.attempt.runInMemory now memory =
      (.ok (p.runInMemory now memory).1, (p.runInMemory now memory).2) := by
  induction p generalizing memory with
  | done outcome => rfl
  | call c next ih => exact ih _ _

/-! What is known of a program when it has ended, well or in a failure. -/

/-- Run in memory, a program ends in a result and a state with a property, or else in a failure and a
state with another one. -/
def Ends (now : Time.Instant) (p : Program α) (memory : Memory) (good : α → Memory → Prop)
    (bad : Memory → Prop) : Prop :=
  match p.runInMemory now memory with
  | (.ok a, after) => good a after
  | (.error _, after) => bad after

variable {now : Time.Instant} {p : Program α} {memory : Memory} {good : α → Memory → Prop}
  {bad : Memory → Prop}

theorem Ends.of_ok (h : p.Ends now memory good bad) {a : α} {after : Memory}
    (run : p.runInMemory now memory = (.ok a, after)) : good a after := by
  rw [Ends, run] at h
  exact h

theorem Ends.always {good : Memory → Prop} (h : p.Ends now memory (fun _ => good) good) :
    good (p.runInMemory now memory).2 := by
  rw [Ends] at h
  split at h
  · rename_i run
    rw [run]
    exact h
  · rename_i run
    rw [run]
    exact h

@[simp]
theorem ends_done_ok (a : α) : (done (.ok a)).Ends now memory good bad ↔ good a memory :=
  Iff.rfl

@[simp]
theorem ends_done_error (failure : Failure) :
    (done (.error failure)).Ends now memory good bad ↔ bad memory :=
  Iff.rfl

@[simp]
theorem ends_call (c : Call) (next : c.Reply → Program α) :
    (call c next).Ends now memory good bad ↔
      (next (memory.answer now c).1).Ends now (memory.answer now c).2 good bad :=
  Iff.rfl

theorem Ends.bind (h : p.Ends now memory good bad) {f : α → Program β} {good' : β → Memory → Prop}
    {bad' : Memory → Prop}
    (next : ∀ a after, good a after → (f a).Ends now after good' bad')
    (fails : ∀ after, bad after → bad' after) : (p >>= f).Ends now memory good' bad' := by
  rw [Ends, runInMemory_bind]
  rw [Ends] at h
  split at h
  · exact next _ _ h
  · exact fails _ h

theorem Ends.mono (h : p.Ends now memory good bad) {good' : α → Memory → Prop}
    {bad' : Memory → Prop} (better : ∀ a after, good a after → good' a after)
    (worse : ∀ after, bad after → bad' after) : p.Ends now memory good' bad' := by
  rw [Ends] at h ⊢
  split at h
  · exact better _ _ h
  · exact worse _ h

theorem Ends.attempt (h : p.Ends now memory good fun _ => False) :
    p.attempt.Ends now memory (fun outcome after => ∃ a, outcome = .ok a ∧ good a after)
      fun _ => False := by
  rw [Ends, runInMemory_attempt]
  rw [Ends] at h
  split at h
  · rename_i a after run
    rw [run]
    exact ⟨a, rfl, h⟩
  · exact h.elim

theorem ends_checkpoint {f : Unit → Program α} (next : (f ()).Ends now memory good bad) :
    (checkpoint >>= f).Ends now memory good bad :=
  next

/-- A check either fails and leaves everything as it is, or the program goes on with its result. -/
theorem ends_check {outcome : Outcome β} {f : β → Program α} (failed : bad memory)
    (next : ∀ b, outcome = .ok b → (f b).Ends now memory good bad) :
    (ofOutcome outcome >>= f).Ends now memory good bad := by
  cases outcome with
  | ok b => exact next b rfl
  | error failure => exact failed

end Program

end DeploymentGateway
