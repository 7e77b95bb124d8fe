import DeploymentGateway.Json.Path
import DeploymentGateway.Json.Reader
import DeploymentGateway.Server.Basic
/-!
Answers of a server over HTTP, and what those of an application server mean. The reason of a refusal is
the message in the body, where the body is JSON and has one, and otherwise the whole body.
-/

set_option autoImplicit false

namespace DeploymentGateway.Server

/-- An answer: a status code and a body. -/
structure Answer where
  code : Nat
  body : String

namespace Answer

/-- The reason that an answer without success gives. -/
def reason (answer : Answer) : String :=
  ((Json.parse? answer.body).bind fun value => value.string?At ["message"]).getD answer.body

/-- The value that an answer carries, or why there is none. An empty body carries null. -/
def outcome (answer : Answer) : Except ServerError Json :=
  if !isSuccess answer.code then .error (.status answer.code answer.reason)
  else if answer.body.isEmpty then .ok .null
  else match Json.parse? answer.body with
    | some value => .ok value
    | none => .error (.undecodable "")

/-- An answer is refused with its status exactly where its code tells of no success. -/
theorem outcome_eq_status_iff (answer : Answer) :
    answer.outcome = .error (.status answer.code answer.reason) ↔
      isSuccess answer.code = false := by
  unfold outcome
  constructor
  · intro h
    cases hs : isSuccess answer.code with
    | false => rfl
    | true =>
      rw [hs] at h
      simp only [Bool.not_true, Bool.false_eq_true, if_false] at h
      split at h
      · simp at h
      · split at h <;> simp at h
  · intro h
    simp [h]

end Answer

end DeploymentGateway.Server
