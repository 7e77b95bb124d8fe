import DeploymentGateway.Failure
import DeploymentGateway.Sorted
/-!
A client that is set up on its first use, and the callers that ask for it. The first of them begins the
setup as a future that the client keeps a handle on; every caller takes a handle of its own and waits for
the future or for its token, whichever is ready first. Nothing goes on by itself: a caller goes on when it
is polled, and the future when one of its handles is.
-/

set_option autoImplicit false

namespace DeploymentGateway

/-- What comes of polling something that is waited for. -/
inductive Poll (α : Type) where
  | pending
  | ready (value : α)

/-- The token of a caller, which tells whether the caller has given up. -/
structure CancellationToken where
  isCancelled : Bool

namespace CancellationToken

/-- The token once the caller has given up. -/
def cancel (_token : CancellationToken) : CancellationToken :=
  ⟨true⟩

/-- Fail if the caller has given up. -/
def check (token : CancellationToken) : Outcome Unit :=
  if token.isCancelled then .error .cancelled else .ok ()

/-- Poll for the caller to give up. -/
def poll (token : CancellationToken) : Poll Unit :=
  if token.isCancelled then .ready () else .pending

end CancellationToken

/-- How far a shared future is. Without handles nobody can poll it any more, and what it waited for is
lost. -/
inductive SharedFuture.State (α : Type) where
  | running (invocation : Nat)
  | complete (outcome : Outcome α)
  | dropped

/-- A future with the number of its handles. It waits for what an invocation of a connector gives. -/
structure SharedFuture (α : Type) where
  handles : Nat
  state : SharedFuture.State α

namespace SharedFuture

variable {α : Type}

/-- A new future with its first handle. -/
def new (invocation : Nat) : SharedFuture α :=
  ⟨1, .running invocation⟩

/-- One more handle is taken. -/
def clone (future : SharedFuture α) : SharedFuture α :=
  { future with handles := future.handles + 1 }

/-- A handle is given up. The future goes with its last one. -/
def release (future : SharedFuture α) : SharedFuture α :=
  let handles := future.handles - 1
  ⟨handles, if handles = 0 then .dropped else future.state⟩

/-- The outcome, where it is there already. -/
def peek (future : SharedFuture α) : Option (Outcome α) :=
  match future.state with
  | .complete outcome => some outcome
  | _ => none

/-- Poll a handle. The outcome stays with the future for the other handles. -/
def poll (connection : Nat → Poll (Outcome α)) (future : SharedFuture α) :
    Poll (Outcome α) × SharedFuture α :=
  match future.state with
  | .complete outcome => (.ready outcome, future)
  | .running invocation =>
    match connection invocation with
    | .ready outcome => (.ready outcome, { future with state := .complete outcome })
    | .pending => (.pending, future)
  | .dropped => (.pending, future)

end SharedFuture

/-- Where a caller is: before its first poll, or waiting with a handle. -/
inductive LazyClient.Position where
  | fresh
  | waiting (handle : Nat)

/-- A caller with its token. -/
structure LazyClient.Caller where
  token : CancellationToken
  position : Position

/-- A client with its callers. What its connector gives is held back by a gate. The cell has a handle on the
setup as soon as that has begun; handles are the places of the futures that they are on. -/
structure LazyClient (α : Type) where
  connector : Nat → Outcome α
  gateOpen : Bool
  invocations : Nat
  futures : List (SharedFuture α)
  cell : Option Nat
  callers : SortedMap String LazyClient.Caller

namespace LazyClient

/-- What can happen to a client and its callers. -/
inductive Event where
  /-- A caller asks for the client, but is not polled yet. -/
  | start (caller : String) (cancelled : Bool)
  | poll (caller : String)
  | cancel (caller : String)
  | drop (caller : String)
  | openGate

/-- What comes of an event. A caller that got an outcome is not known any more. -/
inductive Answer (α : Type) where
  | accepted
  | pending
  | finished (outcome : Outcome α)
  | unknownCaller

/-- How far a caller gets when it goes on. -/
inductive Progress (α : Type) where
  | suspended (position : Position)
  | returned (outcome : Outcome α)

variable {α : Type}

/-- A client that nobody has asked for. -/
def initial (connector : Nat → Outcome α) (gateOpen : Bool) : LazyClient α :=
  ⟨connector, gateOpen, 0, [], none, .empty⟩

/-! ## Handles -/

/-- Poll for what an invocation of the connector gives. -/
def connection (client : LazyClient α) (invocation : Nat) : Poll (Outcome α) :=
  if client.gateOpen then .ready (client.connector invocation) else .pending

/-- Share a new future, with the first handle on it. -/
def share (client : LazyClient α) (invocation : Nat) : Nat × LazyClient α :=
  (client.futures.length, { client with futures := client.futures ++ [.new invocation] })

/-- Take one more handle where there is one. -/
def clone (client : LazyClient α) (handle : Nat) : LazyClient α :=
  { client with futures := client.futures.modify handle SharedFuture.clone }

/-- Give a handle up. -/
def release (client : LazyClient α) (handle : Nat) : LazyClient α :=
  { client with futures := client.futures.modify handle SharedFuture.release }

/-- The outcome of the future of a handle, where it is there already. -/
def peek (client : LazyClient α) (handle : Nat) : Option (Outcome α) :=
  client.futures[handle]?.bind SharedFuture.peek

/-- Poll a handle. -/
def pollHandle (client : LazyClient α) (handle : Nat) : Poll (Outcome α) × LazyClient α :=
  match client.futures[handle]? with
  | none => (.pending, client)
  | some future =>
    let (answer, future) := future.poll client.connection
    (answer, { client with futures := client.futures.set handle future })

/-! ## Getting the client -/

/-- Invoke the connector. -/
def connect (client : LazyClient α) : Nat × LazyClient α :=
  let invocation := client.invocations + 1
  (invocation, { client with invocations := invocation })

/-- The handle in the cell, which is filled on the first call. -/
def getOrInit (client : LazyClient α) : Nat × LazyClient α :=
  match client.cell with
  | some handle => (handle, client)
  | none =>
    let (invocation, client) := client.connect
    let (handle, client) := client.share invocation
    (handle, { client with cell := some handle })

/-- A handle on the setup. -/
def setup (client : LazyClient α) : Nat × LazyClient α :=
  let (handle, client) := client.getOrInit
  (handle, client.clone handle)

/-- Wait for the caller to give up or for the setup, with the caller first. The handle goes when either is
there. -/
def select (client : LazyClient α) (token : CancellationToken) (handle : Nat) :
    Progress α × LazyClient α :=
  match token.poll with
  | .ready () => (.returned (.error .cancelled), client.release handle)
  | .pending =>
    match client.pollHandle handle with
    | (.ready outcome, client) => (.returned outcome, client.release handle)
    | (.pending, client) => (.suspended (.waiting handle), client)

/-- Go on from a position as far as possible. -/
def resume (client : LazyClient α) (token : CancellationToken) : Position → Progress α × LazyClient α
  | .fresh =>
    match token.check with
    | .error failure => (.returned (.error failure), client)
    | .ok () =>
      let (handle, client) := client.setup
      match client.peek handle with
      | some outcome => (.returned outcome, client.release handle)
      | none => client.select token handle
  | .waiting handle => client.select token handle

/-- The setup is over. -/
def isInitialized (client : LazyClient α) : Bool :=
  client.cell.any fun handle => (client.peek handle).isSome

/-! ## Callers -/

/-- A caller is gone, and with it the handle that it waits with. -/
def forget (client : LazyClient α) (name : String) : LazyClient α :=
  let released := match client.callers.get? name with
    | some ⟨_, .waiting handle⟩ => client.release handle
    | _ => client
  { released with callers := released.callers.erase name }

/-- Poll a caller. -/
def poll (client : LazyClient α) (name : String) : Answer α × LazyClient α :=
  match client.callers.get? name with
  | none => (.unknownCaller, client)
  | some caller =>
    match client.resume caller.token caller.position with
    | (.returned outcome, client) =>
      (.finished outcome, { client with callers := client.callers.erase name })
    | (.suspended position, client) =>
      (.pending, { client with callers := client.callers.insert name { caller with position } })

/-- A caller gives up. -/
def cancel (client : LazyClient α) (name : String) : LazyClient α :=
  match client.callers.get? name with
  | none => client
  | some caller =>
    { client with callers := client.callers.insert name { caller with token := caller.token.cancel } }

/-- What an event does. A caller that asks again asks anew. -/
def step (client : LazyClient α) : Event → Answer α × LazyClient α
  | .start name cancelled =>
    let client := client.forget name
    (.accepted, { client with callers := client.callers.insert name ⟨⟨cancelled⟩, .fresh⟩ })
  | .poll name => client.poll name
  | .cancel name => (.accepted, client.cancel name)
  | .drop name => (.accepted, client.forget name)
  | .openGate => (.accepted, { client with gateOpen := true })

/-- What comes of events, one after the other. -/
def run (client : LazyClient α) : List Event → List (Answer α) × LazyClient α
  | [] => ([], client)
  | event :: rest =>
    let (answer, client) := client.step event
    let (answers, client) := client.run rest
    (answer :: answers, client)

end LazyClient

end DeploymentGateway
