import DeploymentGateway.LazyClient
import Mathlib.Data.List.Induction
/-!
The setup of a client without its handles: a phase, and of each caller whether it has given up. It is begun
at most once, and all who wait for it share what comes of that. The invariant ties the phase to the number
of invocations of the connector; only a look at a caller that still waits changes either of them.
-/

set_option autoImplicit false

namespace DeploymentGateway

open LazyClient (Event Answer)

/-- How far a setup has come. A setup that has begun knows which invocation of the connector it
waits for. -/
inductive Setup.Phase (α : Type) where
  | idle
  | waiting (invocation : Nat)
  | finished (outcome : Outcome α)

/-- A setup with its callers, of whom it is known whether they have given up. The gate holds back
whatever the connector is to give. -/
structure Setup (α : Type) where
  connector : Nat → Outcome α
  gateOpen : Bool
  invocations : Nat
  phase : Setup.Phase α
  callers : SortedMap String Bool

namespace Setup

variable {α : Type}

/-- A setup that nobody has asked for. -/
def initial (connector : Nat → Outcome α) (gateOpen : Bool) : Setup α :=
  ⟨connector, gateOpen, 0, .idle, .empty⟩

/-- The outcome is there. -/
def isFinished (setup : Setup α) : Bool :=
  match setup.phase with
  | .finished _ => true
  | _ => false

/-- What polling the setup at a phase comes to. -/
def Phase.poll : Phase α → Poll (Outcome α)
  | .finished outcome => .ready outcome
  | _ => .pending

/-- The state of the future of the setup at a phase. -/
def Phase.state : Phase α → Option (SharedFuture.State α)
  | .idle => none
  | .waiting invocation => some (.running invocation)
  | .finished outcome => some (.complete outcome)

theorem Phase.state_ne_dropped (phase : Phase α) : phase.state ≠ some .dropped := by
  cases phase <;> nofun

/-- Begin the setup, unless it has begun: the connector is invoked once. -/
def begin (setup : Setup α) : Setup α :=
  match setup.phase with
  | .idle =>
    let invocation := setup.invocations + 1
    { setup with invocations := invocation, phase := .waiting invocation }
  | _ => setup

/-- Go on with a setup that has begun, if the gate is open. -/
def advance (setup : Setup α) : Setup α :=
  match setup.phase with
  | .waiting invocation =>
    if setup.gateOpen then { setup with phase := .finished (setup.connector invocation) } else setup
  | _ => setup

/-- A caller is done and forgotten. -/
def finish (setup : Setup α) (name : String) (outcome : Outcome α) : Answer α × Setup α :=
  (.finished outcome, { setup with callers := setup.callers.erase name })

/-- Look at a caller. -/
def poll (setup : Setup α) (name : String) : Answer α × Setup α :=
  match setup.callers.get? name with
  | none => (.unknownCaller, setup)
  | some true => setup.finish name (.error .cancelled)
  | some false =>
    let setup := setup.begin.advance
    match setup.phase with
    | .finished outcome => setup.finish name outcome
    | _ => (.pending, setup)

/-- A caller gives up. -/
def cancel (setup : Setup α) (name : String) : Setup α :=
  if setup.callers.contains name then { setup with callers := setup.callers.insert name true }
  else setup

/-- What an event does. -/
def step (setup : Setup α) : Event → Answer α × Setup α
  | .start name cancelled =>
    (.accepted, { setup with callers := setup.callers.insert name cancelled })
  | .poll name => setup.poll name
  | .cancel name => (.accepted, setup.cancel name)
  | .drop name => (.accepted, { setup with callers := setup.callers.erase name })
  | .openGate => (.accepted, { setup with gateOpen := true })

/-- What comes of events, one after the other. -/
def run (setup : Setup α) : List Event → List (Answer α) × Setup α
  | [] => ([], setup)
  | event :: rest =>
    let (answer, setup) := setup.step event
    let (answers, setup) := setup.run rest
    (answer :: answers, setup)

/-- How far a setup can be after some invocations of its connector: the first one is the only one, and
its outcome is what the setup finishes with. -/
inductive Progress (connector : Nat → Outcome α) : Phase α → Nat → Prop where
  | idle : Progress connector .idle 0
  | waiting : Progress connector (.waiting 1) 1
  | finished : Progress connector (.finished (connector 1)) 1

theorem Progress.invocations_le {connector : Nat → Outcome α} {phase : Phase α} {invocations : Nat}
    (progress : Progress connector phase invocations) : invocations ≤ 1 := by
  cases progress with
  | idle => exact Nat.zero_le 1
  | waiting | finished => exact Nat.le_refl 1

/-- An event looks at a caller that still waits. -/
def Wakes (setup : Setup α) (event : Event) : Prop :=
  ∃ name, event = .poll name ∧ setup.callers.get? name = some false

@[simp]
theorem begin_callers (setup : Setup α) : setup.begin.callers = setup.callers := by
  unfold begin
  split <;> rfl

@[simp]
theorem begin_gateOpen (setup : Setup α) : setup.begin.gateOpen = setup.gateOpen := by
  unfold begin
  split <;> rfl

@[simp]
theorem begin_connector (setup : Setup α) : setup.begin.connector = setup.connector := by
  unfold begin
  split <;> rfl

@[simp]
theorem begin_begin (setup : Setup α) : setup.begin.begin = setup.begin := by
  obtain ⟨_, _, _, phase, _⟩ := setup
  cases phase with
  | idle | waiting _ | finished _ => rfl

@[simp]
theorem advance_invocations (setup : Setup α) :
    setup.advance.invocations = setup.invocations := by
  unfold advance
  split
  · split <;> rfl
  · rfl

@[simp]
theorem advance_gateOpen (setup : Setup α) : setup.advance.gateOpen = setup.gateOpen := by
  unfold advance
  split
  · split <;> rfl
  · rfl

@[simp]
theorem advance_connector (setup : Setup α) : setup.advance.connector = setup.connector := by
  unfold advance
  split
  · split <;> rfl
  · rfl

/-- What a look at a caller that still waits gives, and what it leaves of the setup. -/
theorem step_of_wakes {setup : Setup α} {event : Event} (wakes : setup.Wakes event) :
    ((setup.step event).1 = match setup.begin.advance.phase with
      | .finished outcome => .finished outcome
      | _ => .pending) ∧
    (setup.step event).2.phase = setup.begin.advance.phase ∧
    (setup.step event).2.invocations = setup.begin.invocations := by
  obtain ⟨name, rfl, waits⟩ := wakes
  rw [← setup.begin.advance_invocations]
  simp only [step, poll, waits]
  split <;> simp_all [finish]

/-- Any other event leaves the setup where it is, and whoever finishes at it has given up. -/
theorem step_of_not_wakes {setup : Setup α} {event : Event} (sleeps : ¬ setup.Wakes event) :
    (∀ outcome, (setup.step event).1 = .finished outcome → outcome = .error .cancelled) ∧
    (setup.step event).2.phase = setup.phase ∧
    (setup.step event).2.invocations = setup.invocations := by
  cases event with
  | poll name =>
    rcases asked : setup.callers.get? name with _ | _ | _
    · simp [step, poll, asked]
    · exact absurd ⟨name, rfl, asked⟩ sleeps
    · simp [step, poll, asked, finish]
  | cancel name =>
    simp only [step, cancel]
    split <;> simp
  | start _ _ | drop _ | openGate => simp [step]

@[simp]
theorem step_connector (setup : Setup α) (event : Event) :
    (setup.step event).2.connector = setup.connector := by
  cases event with
  | poll name =>
    simp only [step, poll]
    split
    · rfl
    · rfl
    · split <;> simp [finish]
  | cancel name =>
    simp only [step, cancel]
    split <;> rfl
  | start _ _ | drop _ | openGate => rfl

theorem gateOpen_step {setup : Setup α} (isOpen : setup.gateOpen = true) (event : Event) :
    (setup.step event).2.gateOpen = true := by
  cases event with
  | poll name =>
    simp only [step, poll]
    split
    · exact isOpen
    · exact isOpen
    · split <;> simp [finish, isOpen]
  | cancel name =>
    simp only [step, cancel]
    split <;> exact isOpen
  | start _ _ | drop _ => exact isOpen
  | openGate => rfl

/-- A look at a caller that still waits is where the connector is invoked, unless it was before. -/
theorem progress_begin_advance {setup : Setup α}
    (progress : Progress setup.connector setup.phase setup.invocations) :
    Progress setup.connector setup.begin.advance.phase setup.begin.invocations ∧
      setup.begin.invocations = 1 := by
  obtain ⟨connector, gateOpen, invocations, phase, callers⟩ := setup
  change Progress connector phase invocations at progress
  cases progress with
  | idle =>
    cases gateOpen with
    | false => exact ⟨.waiting, rfl⟩
    | true => exact ⟨.finished, rfl⟩
  | waiting =>
    cases gateOpen with
    | false => exact ⟨.waiting, rfl⟩
    | true => exact ⟨.finished, rfl⟩
  | finished => exact ⟨.finished, rfl⟩

/-- One event keeps the phase and the number of invocations in step. -/
theorem progress_step {setup : Setup α}
    (progress : Progress setup.connector setup.phase setup.invocations) (event : Event) :
    Progress setup.connector (setup.step event).2.phase (setup.step event).2.invocations := by
  by_cases wakes : setup.Wakes event
  · obtain ⟨-, phase, invocations⟩ := step_of_wakes wakes
    rw [phase, invocations]
    exact (progress_begin_advance progress).1
  · obtain ⟨-, phase, invocations⟩ := step_of_not_wakes wakes
    rw [phase, invocations]
    exact progress

theorem step_of_wakes_of_gateOpen {setup : Setup α} {event : Event}
    (progress : Progress setup.connector setup.phase setup.invocations)
    (isOpen : setup.gateOpen = true) (wakes : setup.Wakes event) :
    (setup.step event).1 = .finished (setup.connector 1) := by
  rw [(step_of_wakes wakes).1]
  obtain ⟨connector, gateOpen, invocations, phase, callers⟩ := setup
  change Progress connector phase invocations at progress
  obtain rfl : gateOpen = true := isOpen
  cases progress with
  | idle | waiting | finished => rfl

/-- Whoever finishes without having given up has the one outcome, and the setup is finished then. -/
theorem outcome_of_step {setup : Setup α} {event : Event} {outcome : Outcome α}
    (progress : Progress setup.connector setup.phase setup.invocations)
    (finished : (setup.step event).1 = .finished outcome) (waits : outcome ≠ .error .cancelled) :
    outcome = setup.connector 1 ∧ (setup.step event).2.isFinished = true := by
  have wakes : setup.Wakes event := by
    by_contra sleeps
    exact waits ((step_of_not_wakes sleeps).1 outcome finished)
  obtain ⟨answer, phase, -⟩ := step_of_wakes wakes
  have next := (progress_begin_advance progress).1
  rw [isFinished, phase]
  rw [finished] at answer
  generalize setup.begin.advance.phase = phase at answer next
  generalize setup.begin.invocations = invocations at next
  cases next with
  | idle | waiting => cases answer
  | finished => exact ⟨Answer.finished.inj answer, rfl⟩

theorem isFinished_step {setup : Setup α} (finished : setup.isFinished = true) (event : Event) :
    (setup.step event).2.isFinished = true := by
  obtain ⟨connector, gateOpen, invocations, phase, callers⟩ := setup
  cases phase with
  | idle | waiting _ => cases finished
  | finished outcome =>
    by_cases wakes : Wakes ⟨connector, gateOpen, invocations, .finished outcome, callers⟩ event
    · rw [isFinished, (step_of_wakes wakes).2.1]
      rfl
    · rw [isFinished, (step_of_not_wakes wakes).2.1]

theorem run_concat (setup : Setup α) (events : List Event) (event : Event) :
    setup.run (events ++ [event]) =
      ((setup.run events).1 ++ [((setup.run events).2.step event).1],
        ((setup.run events).2.step event).2) := by
  induction events generalizing setup with
  | nil => rfl
  | cons first rest ih => simp only [List.cons_append, run, ih]

theorem run_append (setup : Setup α) (events more : List Event) :
    (setup.run (events ++ more)).2 = ((setup.run events).2.run more).2 := by
  induction events generalizing setup with
  | nil => rfl
  | cons first rest ih => exact ih _

theorem isFinished_run {setup : Setup α} (finished : setup.isFinished = true)
    (events : List Event) : (setup.run events).2.isFinished = true := by
  induction events generalizing setup with
  | nil => exact finished
  | cons event rest ih => exact ih (isFinished_step finished event)

section

variable (connector : Nat → Outcome α) (gateOpen : Bool)

/-- The setup that events leave behind, from the start. -/
def reach (events : List Event) : Setup α :=
  ((initial connector gateOpen).run events).2

/-- The answers to events, from the start. -/
def answers (events : List Event) : List (Answer α) :=
  ((initial connector gateOpen).run events).1

theorem reach_concat (events : List Event) (event : Event) :
    reach connector gateOpen (events ++ [event]) =
      ((reach connector gateOpen events).step event).2 :=
  congrArg Prod.snd (run_concat _ events event)

theorem answers_concat (events : List Event) (event : Event) :
    answers connector gateOpen (events ++ [event]) =
      answers connector gateOpen events ++ [((reach connector gateOpen events).step event).1] :=
  congrArg Prod.fst (run_concat _ events event)

theorem connector_reach (events : List Event) :
    (reach connector gateOpen events).connector = connector := by
  induction events using List.reverseRecOn with
  | nil => rfl
  | append_singleton events event ih => rw [reach_concat, step_connector, ih]

/-- However far a setup has come, it was begun at most once. -/
theorem progress_reach (events : List Event) :
    Progress (reach connector gateOpen events).connector (reach connector gateOpen events).phase
      (reach connector gateOpen events).invocations := by
  induction events using List.reverseRecOn with
  | nil => exact .idle
  | append_singleton events event ih =>
    rw [reach_concat, step_connector]
    exact progress_step ih event

/-- All who finish without having given up have the outcome of the one invocation, and the setup is
finished then. -/
theorem outcome_of_mem_answers {events : List Event} {outcome : Outcome α}
    (finished : .finished outcome ∈ answers connector gateOpen events)
    (waits : outcome ≠ .error .cancelled) :
    outcome = connector 1 ∧ (reach connector gateOpen events).isFinished = true := by
  induction events using List.reverseRecOn with
  | nil => cases finished
  | append_singleton events event ih =>
    rw [reach_concat]
    rw [answers_concat] at finished
    rcases List.mem_append.mp finished with earlier | now
    · obtain ⟨same, finished⟩ := ih earlier
      exact ⟨same, isFinished_step finished event⟩
    · obtain ⟨same, finished⟩ := outcome_of_step (progress_reach connector gateOpen events)
        (List.mem_singleton.mp now).symm waits
      exact ⟨same.trans (congrFun (connector_reach connector gateOpen events) 1), finished⟩

theorem gateOpen_reach {events : List Event}
    (opened : gateOpen = true ∨ .openGate ∈ events) :
    (reach connector gateOpen events).gateOpen = true := by
  induction events using List.reverseRecOn with
  | nil =>
    have isOpen : gateOpen = true := by simpa using opened
    exact isOpen
  | append_singleton events event ih =>
    rw [reach_concat]
    rcases opened with isOpen | mem
    · exact gateOpen_step (ih (.inl isOpen)) event
    · rcases List.mem_append.mp mem with earlier | now
      · exact gateOpen_step (ih (.inr earlier)) event
      · rw [← List.mem_singleton.mp now]
        rfl

end

end Setup

end DeploymentGateway
