import DeploymentGateway.Proofs.LazyClient.Simulation
/-!
A client is set up at most once, and all who wait for it share what comes of that. Whoever gives up or is
dropped takes at most its own handle along, so the setup goes on for the others. All of it is read off the
setup without handles, except for when the connector is invoked: that is at the first poll of a caller.
-/

set_option autoImplicit false

namespace DeploymentGateway.LazyClient

variable {α : Type}

/-- An event is the first poll of a caller that has not given up. -/
def Begins (client : LazyClient α) (event : Event) : Prop :=
  ∃ name token, event = .poll name ∧ client.callers.get? name = some ⟨token, .fresh⟩ ∧
    token.isCancelled = false

/-- How far the future is that the setup goes on in, as soon as there is one. -/
def setupState (client : LazyClient α) : Option (SharedFuture.State α) :=
  client.cell.bind fun handle => client.futures[handle]?.map SharedFuture.state

theorem forget_invocations (client : LazyClient α) (name : String) :
    (client.forget name).invocations = client.invocations := by
  unfold forget
  split <;> rfl

theorem pollHandle_invocations (client : LazyClient α) (handle : Nat) :
    (client.pollHandle handle).2.invocations = client.invocations := by
  unfold pollHandle
  split <;> rfl

/-- Only the first poll of a caller can invoke the connector. -/
theorem invocations_step {client : LazyClient α} {event : Event} (later : ¬ client.Begins event) :
    (client.step event).2.invocations = client.invocations := by
  cases event with
  | start name cancelled => exact client.forget_invocations name
  | drop name => exact client.forget_invocations name
  | openGate => rfl
  | cancel name =>
    simp only [step, cancel]
    split <;> rfl
  | poll name =>
    rcases here : client.callers.get? name with _ | ⟨⟨gaveUp⟩, position⟩
    · simp only [step, poll, here]
    · cases gaveUp with
      | true =>
        rw [step, poll_of_cancelled here rfl]
        exact client.forget_invocations name
      | false =>
        cases position with
        | fresh => exact absurd ⟨name, _, rfl, here, rfl⟩ later
        | waiting handle =>
          have same := client.pollHandle_invocations handle
          rw [step, poll_of_waiting here rfl]
          generalize client.pollHandle handle = polled at same ⊢
          obtain ⟨_ | outcome, after⟩ := polled
          · exact same
          · exact (after.forget_invocations name).trans same

theorem Simulates.wakes {client : LazyClient α} {setup : Setup α} (sim : Simulates client setup)
    {event : Event} (begins : client.Begins event) : setup.Wakes event := by
  obtain ⟨name, token, rfl, here, waits⟩ := begins
  refine ⟨name, rfl, ?_⟩
  rw [← sim.mirrors name, here, ← waits]
  rfl

theorem Simulates.setupState {client : LazyClient α} {setup : Setup α} (sim : Simulates client setup) :
    client.setupState = setup.phase.state := by
  obtain ⟨_, _, _, futures, cell, callers⟩ := client
  obtain ⟨_, _, _, phase, _⟩ := setup
  have keeps : Keeps (waiting callers) cell futures phase := sim.keeps
  cases keeps with
  | idle _ | running | complete => rfl

theorem Simulates.isInitialized {client : LazyClient α} {setup : Setup α} (sim : Simulates client setup) :
    client.isInitialized = setup.isFinished := by
  obtain ⟨_, _, _, futures, cell, callers⟩ := client
  obtain ⟨_, _, _, phase, _⟩ := setup
  have keeps : Keeps (waiting callers) cell futures phase := sim.keeps
  cases keeps with
  | idle _ | running | complete => rfl

section

variable (connector : Nat → Outcome α) (gateOpen : Bool)

/-- The client that events leave behind, from the start. -/
def reach (events : List Event) : LazyClient α :=
  ((initial connector gateOpen).run events).2

/-- The answers to events, from the start. -/
def answers (events : List Event) : List (Answer α) :=
  ((initial connector gateOpen).run events).1

theorem simulates_reach (events : List Event) :
    Simulates (reach connector gateOpen events) (Setup.reach connector gateOpen events) :=
  ((simulates_initial connector gateOpen).run events).2

theorem answers_eq (events : List Event) :
    answers connector gateOpen events = Setup.answers connector gateOpen events :=
  ((simulates_initial connector gateOpen).run events).1

theorem run_append (client : LazyClient α) (events more : List Event) :
    (client.run (events ++ more)).2 = ((client.run events).2.run more).2 := by
  induction events generalizing client with
  | nil => rfl
  | cons first rest ih => exact ih _

theorem reach_concat (events : List Event) (event : Event) :
    reach connector gateOpen (events ++ [event]) =
      ((reach connector gateOpen events).step event).2 :=
  run_append _ events [event]

/-- The connector has been invoked exactly if some caller was polled for the first time before it gave up. -/
theorem invocations_reach (events : List Event) :
    (reach connector gateOpen events).invocations = 1 ↔
      ∃ before event later, events = before ++ event :: later ∧
        (reach connector gateOpen before).Begins event := by
  induction events using List.reverseRecOn with
  | nil =>
    constructor
    · intro none
      cases none
    · rintro ⟨before, event, later, none, -⟩
      simp at none
  | append_singleton events last ih =>
    rw [reach_concat]
    by_cases begins : (reach connector gateOpen events).Begins last
    · have sim := simulates_reach connector gateOpen events
      have progress := Setup.progress_reach connector gateOpen events
      rw [(sim.step last).2.invocations, (Setup.step_of_wakes (sim.wakes begins)).2.2]
      constructor
      · intro _
        exact ⟨events, last, [], rfl, begins⟩
      · intro _
        exact (Setup.progress_begin_advance progress).2
    · rw [invocations_step begins, ih]
      constructor
      · rintro ⟨before, event, later, rfl, begun⟩
        exact ⟨before, event, later ++ [last], by simp, begun⟩
      · rintro ⟨before, event, later, same, begun⟩
        rcases List.eq_nil_or_concat later with rfl | ⟨later, other, rfl⟩
        · obtain ⟨rfl, rest⟩ := List.append_inj' same rfl
          cases rest
          exact absurd begun begins
        · obtain ⟨rfl, -⟩ := List.append_inj' (same.trans
            (by simp : _ = (before ++ event :: later) ++ [other])) rfl
          exact ⟨before, event, later, rfl, begun⟩

/-- What holds of a client that events have left behind, however many callers there are and in whatever order
they are polled, give up or are dropped. -/
structure Shares (events : List Event) : Prop where
  /-- The connector is invoked at most once, -/
  once : (reach connector gateOpen events).invocations ≤ 1
  /-- and exactly once as soon as a caller was polled for the first time before it gave up. -/
  begun : (reach connector gateOpen events).invocations = 1 ↔
    ∃ before event later, events = before ++ event :: later ∧
      (reach connector gateOpen before).Begins event
  /-- Who finishes without having given up has the outcome of that invocation. -/
  outcome : ∀ outcome, .finished outcome ∈ answers connector gateOpen events →
    outcome ≠ .error .cancelled → outcome = connector 1
  /-- A caller that has given up is told so, and nothing is begun for it. -/
  cancelled : ∀ name caller, (reach connector gateOpen events).callers.get? name = some caller →
    caller.token.isCancelled = true →
    ((reach connector gateOpen events).step (.poll name)).1 = .finished (.error .cancelled) ∧
    ((reach connector gateOpen events).step (.poll name)).2.setupState =
      (reach connector gateOpen events).setupState ∧
    ((reach connector gateOpen events).step (.poll name)).2.invocations =
      (reach connector gateOpen events).invocations
  /-- To give up or to be dropped takes the setup no further, does not begin it again, -/
  kept : ∀ name event, event = .cancel name ∨ event = .drop name →
    ((reach connector gateOpen events).step event).2.setupState =
      (reach connector gateOpen events).setupState ∧
    ((reach connector gateOpen events).step event).2.invocations =
      (reach connector gateOpen events).invocations
  /-- and never loses it. -/
  alive : (reach connector gateOpen events).setupState ≠ some .dropped
  /-- Once the gate is open it stays open, and the next poll of any caller that has not given up gives it the
  outcome. -/
  finishes : gateOpen = true ∨ .openGate ∈ events → ∀ name caller,
    (reach connector gateOpen events).callers.get? name = some caller →
    caller.token.isCancelled = false →
    ((reach connector gateOpen events).step (.poll name)).1 = .finished (connector 1)
  /-- A client that is initialized stays so, -/
  stays : (reach connector gateOpen events).isInitialized = true →
    ∀ more, (reach connector gateOpen (events ++ more)).isInitialized = true
  /-- and it is as soon as a caller has finished without having given up. -/
  initialized : ∀ outcome, .finished outcome ∈ answers connector gateOpen events →
    outcome ≠ .error .cancelled → (reach connector gateOpen events).isInitialized = true

private theorem sleeps_of_quits {setup : Setup α} {event : Event} {name : String}
    (quits : event = .cancel name ∨ event = .drop name) : ¬ setup.Wakes event := by
  rintro ⟨other, same, -⟩
  rcases quits with rfl | rfl <;> cases same

/-- A client is set up at most once and all share the outcome, whatever happens to its callers. -/
theorem shares_setup (events : List Event) : Shares connector gateOpen events := by
  have sim := simulates_reach connector gateOpen events
  have progress := Setup.progress_reach connector gateOpen events
  -- An event that wakes nobody in the setup leaves the client where it is.
  have unmoved (event : Event) (sleeps : ¬ (Setup.reach connector gateOpen events).Wakes event) :
      ((reach connector gateOpen events).step event).2.setupState =
        (reach connector gateOpen events).setupState ∧
      ((reach connector gateOpen events).step event).2.invocations =
        (reach connector gateOpen events).invocations := by
    obtain ⟨-, phase, invocations⟩ := Setup.step_of_not_wakes sleeps
    have next := (sim.step event).2
    rw [next.setupState, sim.setupState, next.invocations, sim.invocations, phase, invocations]
    exact ⟨rfl, rfl⟩
  constructor
  case once =>
    rw [sim.invocations]
    exact progress.invocations_le
  case begun => exact invocations_reach connector gateOpen events
  case outcome =>
    intro outcome finished waits
    rw [answers_eq] at finished
    exact (Setup.outcome_of_mem_answers connector gateOpen finished waits).1
  case cancelled =>
    intro name caller here gaveUp
    have answer : ((reach connector gateOpen events).step (.poll name)).1 = .finished (.error .cancelled) :=
      congrArg Prod.fst (poll_of_cancelled here gaveUp)
    refine ⟨answer, unmoved (.poll name) ?_⟩
    rintro ⟨other, same, waits⟩
    cases same
    rw [← sim.mirrors name, here, Option.map_some, gaveUp] at waits
    cases waits
  case kept => exact fun name event quits => unmoved event (sleeps_of_quits quits)
  case alive =>
    rw [sim.setupState]
    exact Setup.Phase.state_ne_dropped _
  case finishes =>
    intro opened name caller here waits
    have wakes : (Setup.reach connector gateOpen events).Wakes (.poll name) := by
      refine ⟨name, rfl, ?_⟩
      rw [← sim.mirrors name, here, Option.map_some, waits]
    rw [(sim.step (.poll name)).1, Setup.step_of_wakes_of_gateOpen progress
      (Setup.gateOpen_reach connector gateOpen opened) wakes, Setup.connector_reach]
  case stays =>
    intro initialized more
    rw [(simulates_reach connector gateOpen _).isInitialized, Setup.reach, Setup.run_append]
    exact Setup.isFinished_run (sim.isInitialized ▸ initialized) more
  case initialized =>
    intro outcome finished waits
    rw [answers_eq] at finished
    rw [sim.isInitialized]
    exact (Setup.outcome_of_mem_answers connector gateOpen finished waits).2

end

/-- Of two callers the one that began the setup gives up. The other one finishes, and so does a third that only
comes then; one that had given up beforehand is told so. -/
theorem shares_setup_initializer_gives_up :
    let events : List Event := [.start "a" false, .poll "a", .start "b" false, .poll "b", .cancel "a", .poll "a",
      .openGate, .poll "b", .start "c" false, .poll "c", .start "d" true, .poll "d"]
    answers (fun invocation => .ok invocation) false events = [.accepted, .pending, .accepted, .pending, .accepted,
        .finished (.error .cancelled), .accepted, .finished (.ok 1), .accepted, .finished (.ok 1), .accepted,
        .finished (.error .cancelled)] ∧
      (reach (fun invocation => .ok invocation) false events).invocations = 1 ∧
      (reach (fun invocation => .ok invocation) false events).isInitialized = true := by
  intro events
  have shares := shares_setup (fun invocation => (.ok invocation : Outcome Nat)) false events
  have told : answers (fun invocation => (.ok invocation : Outcome Nat)) false events = [.accepted, .pending,
      .accepted, .pending, .accepted, .finished (.error .cancelled), .accepted, .finished (.ok 1), .accepted,
      .finished (.ok 1), .accepted, .finished (.error .cancelled)] := rfl
  refine ⟨told, ?_, ?_⟩
  · exact shares.begun.mpr ⟨[.start "a" false], .poll "a", _, rfl, "a", ⟨false⟩, rfl, rfl, rfl⟩
  · exact shares.initialized (.ok 1) (by simp [told]) nofun

end DeploymentGateway.LazyClient
