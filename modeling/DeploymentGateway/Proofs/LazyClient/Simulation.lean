import DeploymentGateway.Proofs.LazyClient.Setup
import DeploymentGateway.Proofs.Sorted
/-!
A client with handles goes on as its setup does without them. The relation between the two ties the cell,
the future and the positions of the callers together: all handles are on the one future in the cell, and it
has one handle more than there are callers that wait. So it is never dropped, whoever goes.
-/

set_option autoImplicit false

namespace DeploymentGateway

namespace LazyClient

variable {α : Type}

/-! What polling a caller comes to. -/

/-- The position has a handle. -/
def Position.isWaiting : Position → Bool
  | .fresh => false
  | .waiting _ => true

@[simp]
theorem pollHandle_callers (client : LazyClient α) (handle : Nat) :
    (client.pollHandle handle).2.callers = client.callers := by
  unfold pollHandle
  split <;> rfl

theorem pollHandle_of_peek {client : LazyClient α} {handle : Nat} {outcome : Outcome α}
    (there : client.peek handle = some outcome) : client.pollHandle handle = (.ready outcome, client) := by
  obtain ⟨future, found, complete⟩ := Option.bind_eq_some_iff.mp there
  have state : future.state = .complete outcome := by
    unfold SharedFuture.peek at complete
    split at complete
    · cases complete
      assumption
    · cases complete
  have same : client.futures.set handle future = client.futures := by
    obtain ⟨bound, rfl⟩ := List.getElem?_eq_some_iff.mp found
    exact List.set_getElem_self bound
  simp only [pollHandle, found, SharedFuture.poll, state, same]

/-- Waiting neither reads nor changes who else is there. -/
private theorem select_withCallers (client : LazyClient α) (token : CancellationToken) (handle : Nat)
    (callers : SortedMap String Caller) :
    ({ client with callers } : LazyClient α).select token handle =
      ((client.select token handle).1, { (client.select token handle).2 with callers }) := by
  have polled : ({ client with callers } : LazyClient α).pollHandle handle =
      ((client.pollHandle handle).1, { (client.pollHandle handle).2 with callers }) := by
    unfold pollHandle
    cases found : client.futures[handle]? <;> rfl
  unfold select
  rw [polled]
  cases token.poll with
  | ready _ => rfl
  | pending => rcases client.pollHandle handle with ⟨_ | _, _⟩ <;> rfl

private theorem select_callers (client : LazyClient α) (token : CancellationToken) (handle : Nat) :
    (client.select token handle).2.callers = client.callers := by
  unfold select
  cases token.poll with
  | ready _ => rfl
  | pending =>
    have same := client.pollHandle_callers handle
    generalize client.pollHandle handle = polled at same ⊢
    obtain ⟨_ | _, _⟩ := polled <;> exact same

theorem setup_callers (client : LazyClient α) : client.setup.2.callers = client.callers := by
  unfold setup getOrInit
  cases client.cell <;> rfl

/-- A caller at its first poll takes a handle, and goes on as whoever waits with one. -/
private theorem resume_fresh (client : LazyClient α) {token : CancellationToken}
    (waits : token.isCancelled = false) :
    client.resume token .fresh = client.setup.2.select token client.setup.1 := by
  simp only [resume, CancellationToken.check, waits]
  cases there : client.setup.2.peek client.setup.1 with
  | none => rfl
  | some outcome => simp [select, CancellationToken.poll, waits, pollHandle_of_peek there]

/-- A caller has taken its handle. -/
def join (client : LazyClient α) (name : String) (token : CancellationToken) : LazyClient α :=
  { client.setup.2 with
    callers := client.callers.insert name ⟨token, .waiting client.setup.1⟩ }

theorem poll_of_fresh {client : LazyClient α} {name : String} {token : CancellationToken}
    (here : client.callers.get? name = some ⟨token, .fresh⟩) (waits : token.isCancelled = false) :
    client.poll name = (client.join name token).poll name := by
  have joined : (client.join name token).callers.get? name =
      some ⟨token, .waiting client.setup.1⟩ := SortedMap.get?_insert_self _ _ _
  have moved : (client.join name token).select token client.setup.1 = _ :=
    select_withCallers client.setup.2 token client.setup.1 _
  simp only [poll, here, joined, resume_fresh client waits]
  simp only [resume, moved]
  have same := select_callers client.setup.2 token client.setup.1
  rw [setup_callers] at same
  generalize client.setup.2.select token client.setup.1 = selected at same ⊢
  obtain ⟨position | outcome, after⟩ := selected
  · change after.callers = client.callers at same
    simp only [same, SortedMap.insert_insert]
  · change after.callers = client.callers at same
    simp only [same, SortedMap.erase_insert]

theorem poll_of_waiting {client : LazyClient α} {name : String} {token : CancellationToken} {handle : Nat}
    (here : client.callers.get? name = some ⟨token, .waiting handle⟩) (waits : token.isCancelled = false) :
    client.poll name =
      match client.pollHandle handle with
      | (.ready outcome, client) => (.finished outcome, client.forget name)
      | (.pending, client) => (.pending, client) := by
  have same := client.pollHandle_callers handle
  simp only [poll, here, resume, select, CancellationToken.poll, waits, Bool.false_eq_true, if_false]
  generalize client.pollHandle handle = polled at same ⊢
  obtain ⟨_ | outcome, after⟩ := polled
  · have here : after.callers.get? name = some ⟨token, .waiting handle⟩ := same ▸ here
    simp only [SortedMap.insert_of_get? here]
  · have here : after.callers.get? name = some ⟨token, .waiting handle⟩ := same ▸ here
    simp only [forget, here]

/-- Who has given up is done without a look at the setup. -/
theorem poll_of_cancelled {client : LazyClient α} {name : String} {caller : Caller}
    (here : client.callers.get? name = some caller) (gaveUp : caller.token.isCancelled = true) :
    client.poll name = (.finished (.error .cancelled), client.forget name) := by
  obtain ⟨token, position⟩ := caller
  change token.isCancelled = true at gaveUp
  cases position with
  | fresh => simp [poll, here, resume, CancellationToken.check, gaveUp, forget]
  | waiting handle =>
    simp [poll, here, resume, select, CancellationToken.poll, gaveUp, forget]

/-! The simulation. -/

/-- The callers and who of them has given up. -/
def Mirrors (callers : SortedMap String Caller) (flags : SortedMap String Bool) : Prop :=
  ∀ name, (callers.get? name).map (fun caller => caller.token.isCancelled) = flags.get? name

/-- Who waits has the handle that is in the cell. -/
def Holding (cell : Option Nat) (callers : SortedMap String Caller) : Prop :=
  ∀ name token handle, callers.get? name = some ⟨token, .waiting handle⟩ → cell = some handle

/-- How many callers wait with a handle. -/
def waiting (callers : SortedMap String Caller) : Nat :=
  callers.toList.countP fun entry => entry.2.position.isWaiting

/-- The cell and the futures at a phase of the setup, while some callers wait. Besides theirs there is the
handle in the cell. -/
inductive Keeps (waiting : Nat) : Option Nat → List (SharedFuture α) → Setup.Phase α → Prop where
  | idle (nobody : waiting = 0) : Keeps waiting none [] .idle
  | running {invocation : Nat} :
      Keeps waiting (some 0) [⟨waiting + 1, .running invocation⟩] (.waiting invocation)
  | complete {outcome : Outcome α} :
      Keeps waiting (some 0) [⟨waiting + 1, .complete outcome⟩] (.finished outcome)

/-- A client and its setup without handles. -/
structure Simulates (client : LazyClient α) (setup : Setup α) : Prop where
  connector : client.connector = setup.connector
  gateOpen : client.gateOpen = setup.gateOpen
  invocations : client.invocations = setup.invocations
  mirrors : Mirrors client.callers setup.callers
  holding : Holding client.cell client.callers
  keeps : Keeps (waiting client.callers) client.cell client.futures setup.phase

theorem simulates_initial (connector : Nat → Outcome α) (gateOpen : Bool) :
    Simulates (initial connector gateOpen) (.initial connector gateOpen) :=
  ⟨rfl, rfl, rfl, fun _ => rfl, nofun, .idle rfl⟩

theorem Mirrors.erase {callers : SortedMap String Caller} {flags : SortedMap String Bool}
    (mirrors : Mirrors callers flags) (name : String) : Mirrors (callers.erase name) (flags.erase name) := by
  intro other
  by_cases same : other = name
  · rw [same, SortedMap.get?_erase_self, SortedMap.get?_erase_self]
    rfl
  · rw [SortedMap.get?_erase_of_ne _ same, SortedMap.get?_erase_of_ne _ same]
    exact mirrors other

theorem Mirrors.insert {callers : SortedMap String Caller} {flags : SortedMap String Bool}
    (mirrors : Mirrors callers flags) (name : String) (caller : Caller) :
    Mirrors (callers.insert name caller) (flags.insert name caller.token.isCancelled) := by
  intro other
  by_cases same : other = name
  · rw [same, SortedMap.get?_insert_self, SortedMap.get?_insert_self]
    rfl
  · rw [SortedMap.get?_insert_of_ne _ same, SortedMap.get?_insert_of_ne _ same]
    exact mirrors other

theorem Holding.erase {cell : Option Nat} {callers : SortedMap String Caller} (holding : Holding cell callers)
    (name : String) : Holding cell (callers.erase name) :=
  fun other token handle left => holding other token handle (SortedMap.get?_of_get?_erase left)

theorem Holding.insert {cell : Option Nat} {callers : SortedMap String Caller} (holding : Holding cell callers)
    (name : String) {caller : Caller} (own : ∀ handle, caller.position = .waiting handle → cell = some handle) :
    Holding cell (callers.insert name caller) := by
  intro other token handle found
  by_cases same : other = name
  · rw [same, SortedMap.get?_insert_self] at found
    cases found
    exact own handle rfl
  · rw [SortedMap.get?_insert_of_ne _ same] at found
    exact holding other token handle found

/-- A caller that goes takes its handle with it, and the one in the cell is left. -/
theorem Simulates.forget {client : LazyClient α} {setup : Setup α} (sim : Simulates client setup)
    (name : String) :
    Simulates (client.forget name) { setup with callers := setup.callers.erase name } := by
  have keeps := sim.keeps
  rcases here : client.callers.get? name with _ | ⟨token, _ | handle⟩
  · have same : client.callers.erase name = client.callers := SortedMap.erase_of_get?_eq_none here
    simp only [LazyClient.forget, here]
    exact ⟨sim.connector, sim.gateOpen, sim.invocations, sim.mirrors.erase name, sim.holding.erase name,
      same.symm ▸ keeps⟩
  · have count : waiting client.callers = waiting (client.callers.erase name) :=
      SortedMap.countP_of_get? here _
    simp only [LazyClient.forget, here]
    exact ⟨sim.connector, sim.gateOpen, sim.invocations, sim.mirrors.erase name, sim.holding.erase name,
      count ▸ keeps⟩
  · have count : waiting client.callers = waiting (client.callers.erase name) + 1 :=
      SortedMap.countP_of_get? here _
    have cell := sim.holding name token handle here
    simp only [LazyClient.forget, here]
    refine ⟨sim.connector, sim.gateOpen, sim.invocations, sim.mirrors.erase name, sim.holding.erase name, ?_⟩
    change Keeps _ client.cell (client.futures.modify handle SharedFuture.release) setup.phase
    rw [count] at keeps
    rw [cell] at keeps ⊢
    generalize client.futures = futures at keeps ⊢
    generalize setup.phase = phase at keeps ⊢
    cases keeps with
    | running => exact .running
    | complete => exact .complete

theorem Simulates.start {client : LazyClient α} {setup : Setup α} (sim : Simulates client setup)
    {name : String} (absent : client.callers.get? name = none) (cancelled : Bool) :
    Simulates { client with callers := client.callers.insert name ⟨⟨cancelled⟩, .fresh⟩ }
      { setup with callers := setup.callers.insert name cancelled } := by
  have count : waiting (client.callers.insert name ⟨⟨cancelled⟩, .fresh⟩) = waiting client.callers := by
    rw [waiting, SortedMap.countP_insert, SortedMap.erase_of_get?_eq_none absent]
    rfl
  exact ⟨sim.connector, sim.gateOpen, sim.invocations, sim.mirrors.insert name _,
    sim.holding.insert name nofun, count.symm ▸ sim.keeps⟩

/-- To give up changes no handle. -/
theorem Simulates.cancel {client : LazyClient α} {setup : Setup α} (sim : Simulates client setup)
    (name : String) : Simulates (client.cancel name) (setup.cancel name) := by
  have mirrored := sim.mirrors name
  rcases here : client.callers.get? name with _ | ⟨token, position⟩
  · rw [here] at mirrored
    have absent : setup.callers.contains name = false := by
      rw [SortedMap.contains, ← mirrored]
      rfl
    simp only [LazyClient.cancel, here, Setup.cancel, absent]
    exact sim
  · rw [here] at mirrored
    have present : setup.callers.contains name = true := by
      rw [SortedMap.contains, ← mirrored]
      rfl
    have count : waiting (client.callers.insert name ⟨token.cancel, position⟩) = waiting client.callers := by
      rw [waiting, SortedMap.countP_insert, waiting, SortedMap.countP_of_get? here]
    simp only [LazyClient.cancel, here, Setup.cancel, present, if_true]
    refine ⟨sim.connector, sim.gateOpen, sim.invocations, sim.mirrors.insert name ⟨token.cancel, position⟩,
      sim.holding.insert name fun handle waits => sim.holding name token handle ?_, count.symm ▸ sim.keeps⟩
    rw [here, ← waits]

/-- The first handle is taken where the setup begins, and any later one on the same future. -/
theorem Simulates.join {client : LazyClient α} {setup : Setup α} (sim : Simulates client setup)
    {name : String} {token : CancellationToken} (here : client.callers.get? name = some ⟨token, .fresh⟩) :
    Simulates (client.join name token) setup.begin := by
  have before : waiting client.callers = waiting (client.callers.erase name) :=
    SortedMap.countP_of_get? here _
  have after (handle : Nat) : waiting (client.callers.insert name ⟨token, .waiting handle⟩) =
      waiting client.callers + 1 := by
    rw [waiting, SortedMap.countP_insert, before]
    rfl
  have mirrors : Mirrors (client.join name token).callers setup.callers := by
    have mirrored := sim.mirrors.insert name ⟨token, .waiting client.setup.1⟩
    have same : setup.callers.insert name token.isCancelled = setup.callers := by
      refine SortedMap.insert_of_get? ?_
      rw [← sim.mirrors name, here]
      rfl
    rw [same] at mirrored
    exact mirrored
  obtain ⟨connector, gateOpen, invocations, futures, cell, callers⟩ := client
  obtain ⟨connector', gateOpen', invocations', phase, flags⟩ := setup
  obtain ⟨rfl, rfl, rfl, -, holding, keeps⟩ := sim
  change Keeps (waiting callers) cell futures phase at keeps
  cases keeps with
  | idle nobody =>
    refine ⟨rfl, rfl, rfl, mirrors, ?_, ?_⟩
    · refine Holding.insert (fun other token handle waits => ?_) name fun handle own => ?_
      · exact nomatch holding other token handle waits
      · cases own
        rfl
    · change Keeps (waiting (callers.insert name ⟨token, .waiting 0⟩)) (some 0)
        [⟨2, .running (invocations + 1)⟩] (.waiting (invocations + 1))
      rw [after, nobody]
      exact .running
  | running | complete =>
    refine ⟨rfl, rfl, rfl, mirrors, holding.insert name fun handle own => ?_, ?_⟩
    · cases own
      rfl
    · change Keeps (waiting (callers.insert name ⟨token, .waiting 0⟩)) (some 0) [⟨_ + 1, _⟩] _
      rw [after]
      constructor

/-- Whoever polls a handle polls the one setup. -/
theorem Simulates.pollHandle {client : LazyClient α} {setup : Setup α} (sim : Simulates client setup)
    {handle : Nat} (held : client.cell = some handle) :
    (client.pollHandle handle).1 = setup.advance.phase.poll ∧
      Simulates (client.pollHandle handle).2 setup.advance := by
  obtain ⟨connector, gateOpen, invocations, futures, cell, callers⟩ := client
  obtain ⟨connector', gateOpen', invocations', phase, flags⟩ := setup
  obtain ⟨rfl, rfl, rfl, mirrors, holding, keeps⟩ := sim
  obtain rfl : cell = some handle := held
  change Keeps (waiting callers) (some handle) futures phase at keeps
  cases keeps with
  | running =>
    cases gateOpen with
    | false => exact ⟨rfl, rfl, rfl, rfl, mirrors, holding, .running⟩
    | true => exact ⟨rfl, rfl, rfl, rfl, mirrors, holding, .complete⟩
  | complete => exact ⟨rfl, rfl, rfl, rfl, mirrors, holding, .complete⟩

private theorem begin_of_holding {client : LazyClient α} {setup : Setup α} (sim : Simulates client setup)
    {handle : Nat} (held : client.cell = some handle) : setup.begin = setup := by
  obtain ⟨_, _, _, futures, cell, callers⟩ := client
  obtain ⟨_, _, _, phase, flags⟩ := setup
  obtain rfl : cell = some handle := held
  have keeps : Keeps (waiting callers) (some handle) futures phase := sim.keeps
  cases keeps with
  | running | complete => rfl

private theorem simulates_poll_of_waiting {client : LazyClient α} {setup : Setup α}
    (sim : Simulates client setup) {name : String} {token : CancellationToken} {handle : Nat}
    (here : client.callers.get? name = some ⟨token, .waiting handle⟩) (waits : token.isCancelled = false) :
    (client.poll name).1 = (setup.poll name).1 ∧ Simulates (client.poll name).2 (setup.poll name).2 := by
  have held := sim.holding name token handle here
  have asked : setup.callers.get? name = some false := by
    rw [← sim.mirrors name, here, ← waits]
    rfl
  obtain ⟨answer, next⟩ := sim.pollHandle held
  simp only [poll_of_waiting here waits, Setup.poll, asked, begin_of_holding sim held]
  generalize client.pollHandle handle = polled at answer next ⊢
  obtain ⟨polled, after⟩ := polled
  obtain rfl : polled = setup.advance.phase.poll := answer
  cases phase : setup.advance.phase with
  | finished outcome => exact ⟨rfl, next.forget name⟩
  | idle | waiting _ => exact ⟨rfl, next⟩

/-- A caller gets as far as it would without handles. -/
theorem Simulates.poll {client : LazyClient α} {setup : Setup α} (sim : Simulates client setup)
    (name : String) :
    (client.poll name).1 = (setup.poll name).1 ∧ Simulates (client.poll name).2 (setup.poll name).2 := by
  have mirrored := sim.mirrors name
  rcases here : client.callers.get? name with _ | ⟨⟨gaveUp⟩, position⟩
  · rw [here] at mirrored
    simp only [LazyClient.poll, here, Setup.poll, ← mirrored]
    exact ⟨rfl, sim⟩
  · rw [here] at mirrored
    cases gaveUp with
    | true =>
      rw [poll_of_cancelled here rfl]
      simp only [Setup.poll, ← mirrored]
      exact ⟨rfl, sim.forget name⟩
    | false =>
      cases position with
      | waiting handle => exact simulates_poll_of_waiting sim here rfl
      | fresh =>
        -- After `begin` a poll of the setup comes to the same, so the caller may as well have its handle already.
        have again : setup.begin.poll name = setup.poll name := by
          simp only [Setup.poll, Setup.begin_callers, ← mirrored, Setup.begin_begin]
          rfl
        rw [poll_of_fresh here rfl, ← again]
        exact simulates_poll_of_waiting (sim.join here) (SortedMap.get?_insert_self _ _ _) rfl

/-- One event gives the same answer and keeps the relation. -/
theorem Simulates.step {client : LazyClient α} {setup : Setup α} (sim : Simulates client setup)
    (event : Event) :
    (client.step event).1 = (setup.step event).1 ∧
      Simulates (client.step event).2 (setup.step event).2 := by
  cases event with
  | start name cancelled =>
    have absent : (client.forget name).callers.get? name = none := SortedMap.get?_erase_self _ _
    have started := (sim.forget name).start absent cancelled
    rw [SortedMap.insert_erase] at started
    exact ⟨rfl, started⟩
  | poll name => exact sim.poll name
  | cancel name => exact ⟨rfl, sim.cancel name⟩
  | drop name => exact ⟨rfl, sim.forget name⟩
  | openGate => exact ⟨rfl, sim.connector, rfl, sim.invocations, sim.mirrors, sim.holding, sim.keeps⟩

/-- Events are answered as they are without handles. -/
theorem Simulates.run {client : LazyClient α} {setup : Setup α} (sim : Simulates client setup)
    (events : List Event) :
    (client.run events).1 = (setup.run events).1 ∧ Simulates (client.run events).2 (setup.run events).2 := by
  induction events generalizing client setup with
  | nil => exact ⟨rfl, sim⟩
  | cons event rest ih =>
    obtain ⟨answer, next⟩ := sim.step event
    obtain ⟨answers, last⟩ := ih next
    exact ⟨congrArg₂ List.cons answer answers, last⟩

end LazyClient

end DeploymentGateway
