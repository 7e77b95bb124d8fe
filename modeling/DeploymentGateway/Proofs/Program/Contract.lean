import DeploymentGateway.Proofs.Program.Run
import DeploymentGateway.Proofs.Rewrite.Search
/-!
What a program owes for the calls that it makes, and may count on in the replies that it gets. A contract can speak of
everything in a call, not only of the objects that are sent and found.
-/

set_option autoImplicit false

namespace DeploymentGateway

open Cluster

/-- What has to be true of a call, and then is of its reply. Nothing is asked of a call that only reads. -/
structure Contract where
  Sends : Call → Prop
  Gives : (c : Call) → c.Reply → Prop
  reads : ∀ c, c.mutates = false → Sends c

variable {contract : Contract}

namespace Program

variable {α β : Type}

/-- As long as the replies are what the contract says, all calls are. -/
inductive Honours (contract : Contract) : Program α → Prop where
  | done (outcome : Outcome α) : Honours contract (.done outcome)
  | call {c : Call} {next : c.Reply → Program α} (sends : contract.Sends c)
    (goes : ∀ reply, contract.Gives c reply → Honours contract (next reply)) : Honours contract (.call c next)

theorem Honours.bind {p : Program α} (honours : p.Honours contract) {f : α → Program β}
    (next : ∀ a, (f a).Honours contract) : (p >>= f).Honours contract := by
  induction honours with
  | done outcome =>
    cases outcome with
    | ok a => exact next a
    | error failure => exact .done _
  | call sends _ ih => exact .call sends ih

theorem Honours.attempt {p : Program α} (honours : p.Honours contract) : p.attempt.Honours contract := by
  induction honours with
  | done outcome => exact .done _
  | call sends _ ih => exact .call sends ih

theorem ReadOnly.honours {p : Program α} (reads : p.ReadOnly) : p.Honours contract := by
  induction p with
  | done outcome => exact .done outcome
  | call c next ih => exact .call (contract.reads c reads.1) fun reply _ => ih reply (reads.2 reply)

section

variable {f : β → Program α}

theorem honours_check {outcome : Outcome β} (next : ∀ b, outcome = .ok b → (f b).Honours contract) :
    (ofOutcome outcome >>= f).Honours contract := by
  cases outcome with
  | ok b => exact next b rfl
  | error failure => exact .done _

theorem honours_expect {ε : Type} {reply : Except ε β} {failure : ε → Failure}
    (next : ∀ b, reply = .ok b → (f b).Honours contract) : (expect reply failure >>= f).Honours contract := by
  cases reply with
  | ok b => exact next b rfl
  | error error => exact .done _

end

theorem honours_perform {c : Call} (sends : contract.Sends c) {f : c.Reply → Program α}
    (next : ∀ reply, contract.Gives c reply → (f reply).Honours contract) :
    (perform c >>= f).Honours contract :=
  .call sends next

theorem honours_checkpoint {f : Unit → Program α} (next : (f ()).Honours contract) :
    (checkpoint >>= f).Honours contract := by
  refine .call (contract.reads _ rfl) fun reply _ => ?_
  rcases reply with failure | ⟨⟩
  · exact .done _
  · exact next

theorem honours_connect {client : Client} {f : Unit → Program α} (next : (f ()).Honours contract) :
    (connect client >>= f).Honours contract := by
  refine .call (contract.reads _ rfl) fun reply _ => ?_
  rcases reply with failure | ⟨⟩
  · exact .done _
  · exact next

end Program

/-- A rewrite honours a contract that allows what it writes. -/
theorem Rewrite.honours_program (rewrite : Rewrite) {object : Json}
    (sends : ∀ changed, rewrite.change object = .ok changed →
      contract.Sends (.update rewrite.kind rewrite.namespace changed)) :
    (rewrite.program object).Honours contract :=
  Program.honours_check fun changed made => Program.honours_connect <|
    Program.honours_perform (sends changed made) fun _ _ => Program.honours_expect fun _ _ => .done _

/-- A search honours a contract if whatever it goes on with does, on what it may find. -/
theorem Search.honours_program (search : Search)
    (goes : ∀ places, search.places = .ok places → ∀ place ∈ places, ∀ object,
      contract.Gives (.get place.kind place.namespace place.name) (.ok object) →
        (place.go object).Honours contract) :
    search.program.Honours contract := by
  refine Program.honours_checkpoint (Program.honours_check fun places found => Program.honours_connect ?_)
  have goes := goes places found
  clear found
  induction places with
  | nil => exact .done _
  | cons place rest ih =>
    obtain ⟨here, later⟩ := List.forall_mem_cons.mp goes
    refine Program.honours_perform (contract.reads _ rfl) fun reply gives => ?_
    rcases reply with (_ | _ | _ | _) | object
    · exact ih later
    · exact .done _
    · exact .done _
    · exact .done _
    · exact here object gives

end DeploymentGateway
