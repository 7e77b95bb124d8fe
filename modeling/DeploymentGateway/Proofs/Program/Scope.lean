import DeploymentGateway.Proofs.Program.Run
/-!
What programs leave alone. Of the objects of a cluster those outside some keys stay as they are, whatever
is written or removed at these keys; and a program that never asks the release manager for a change leaves
all releases.
-/

set_option autoImplicit false

namespace DeploymentGateway

open Cluster

/-- Of the objects only those under some keys have changed. -/
def ChangesOnly (touched : ObjectKey → Prop) (objects after : Objects) : Prop :=
  ∀ key, ¬ touched key → after.get? key = objects.get? key

namespace ChangesOnly

variable {touched wider : ObjectKey → Prop} {objects between after : Objects} {key : ObjectKey}

theorem refl (touched : ObjectKey → Prop) (objects : Objects) : ChangesOnly touched objects objects :=
  fun _ _ => rfl

theorem trans (first : ChangesOnly touched objects between)
    (second : ChangesOnly touched between after) : ChangesOnly touched objects after :=
  fun key away => (second key away).trans (first key away)

theorem mono (h : ChangesOnly touched objects after) (wide : ∀ key, touched key → wider key) :
    ChangesOnly wider objects after :=
  fun key away => h key fun here => away (wide key here)

theorem insert (h : ChangesOnly touched objects between) (here : touched key) (object : Json) :
    ChangesOnly touched objects (between.insert key object) := by
  intro other away
  have ne : other ≠ key := by
    rintro rfl
    exact away here
  rw [SortedMap.get?_insert_of_ne _ ne, h other away]

theorem erase (h : ChangesOnly touched objects between) (here : touched key) :
    ChangesOnly touched objects (between.erase key) := by
  intro other away
  have ne : other ≠ key := by
    rintro rfl
    exact away here
  rw [SortedMap.get?_erase_of_ne _ ne, h other away]

end ChangesOnly

/-- The call may change the releases. -/
@[simp]
def Call.movesReleases : Call → Bool
  | install _ | upgrade _ | uninstall _ _ | rollback _ _ _ => true
  | _ => false

theorem Memory.releases_answerTo (now : Time.Instant) (waits : Bool) {c : Call} (memory : Memory)
    (spares : c.movesReleases = false) : (memory.answerTo now waits c).2.releases = memory.releases := by
  cases c with
  | install _ | upgrade _ | uninstall _ _ | rollback _ _ _ => cases spares
  | _ => rfl

namespace Program

variable {α β : Type} {now : Time.Instant}

/-- A program makes no call that may change the releases. -/
def SparesReleases : Program α → Prop
  | done _ => True
  | call c next => c.movesReleases = false ∧ ∀ reply, (next reply).SparesReleases

@[simp]
theorem sparesReleases_done (outcome : Outcome α) : (done outcome).SparesReleases :=
  trivial

@[simp]
theorem sparesReleases_call (c : Call) (next : c.Reply → Program α) :
    (call c next).SparesReleases ↔ c.movesReleases = false ∧ ∀ reply, (next reply).SparesReleases :=
  Iff.rfl

@[simp]
theorem sparesReleases_done_bind (outcome : Outcome α) (f : α → Program β) :
    (done outcome >>= f).SparesReleases ↔ ∀ a, outcome = .ok a → (f a).SparesReleases := by
  cases outcome <;> simp

theorem sparesReleases_bind {p : Program α} {f : α → Program β} (hp : p.SparesReleases)
    (hf : ∀ a, (f a).SparesReleases) : (p >>= f).SparesReleases := by
  induction p with
  | done outcome =>
    cases outcome with
    | ok a => exact hf a
    | error failure => trivial
  | call c next ih => exact ⟨hp.1, fun reply => ih reply (hp.2 reply)⟩

theorem sparesReleases_attempt {p : Program α} (hp : p.SparesReleases) : p.attempt.SparesReleases := by
  induction p with
  | done outcome => trivial
  | call c next ih => exact ⟨hp.1, fun reply => ih reply (hp.2 reply)⟩

/-- What only reads spares the releases. -/
theorem ReadOnly.sparesReleases {p : Program α} (reads : p.ReadOnly) : p.SparesReleases := by
  induction p with
  | done outcome => trivial
  | call c next ih =>
    have spares : c.movesReleases = false := by
      cases c with
      | install _ | upgrade _ | uninstall _ _ | rollback _ _ _ => cases reads.1
      | _ => rfl
    exact ⟨spares, fun reply => ih reply (reads.2 reply)⟩

/-- After every run of a program that spares the releases they are as they were. -/
theorem SparesReleases.releases_of_runs {p : Program α} (spares : p.SparesReleases)
    {memory after : Memory} {outcome : Outcome α} (run : p.Runs now memory outcome after) :
    after.releases = memory.releases := by
  induction run with
  | done outcome memory => rfl
  | call waits rest ih => exact (ih (spares.2 _)).trans (Memory.releases_answerTo now waits _ spares.1)
  | reject kind rest ih => exact ih spares

/-- A program that only reads leaves the memory, but for the updates that the cluster has begun to
refuse. -/
theorem ReadOnly.memory_of_runs {p : Program α} (reads : p.ReadOnly) {memory after : Memory}
    {outcome : Outcome α} (run : p.Runs now memory outcome after) :
    after = { memory with
      cluster := { memory.cluster with rejectedUpdates := after.cluster.rejectedUpdates } } := by
  induction run with
  | done outcome memory => rfl
  | @call c next memory after outcome waits rest ih =>
    have unchanged : c.changes (memory.answerTo now waits c).1 = false := by
      rw [Call.changes, reads.1, Bool.false_and]
    rw [Memory.answerTo_of_not_changes now unchanged] at ih
    exact ih (reads.2 _)
  | reject kind rest ih => exact ih reads

end Program

end DeploymentGateway
