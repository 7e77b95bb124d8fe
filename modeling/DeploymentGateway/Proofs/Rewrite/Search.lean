import DeploymentGateway.Model.Deployment
import DeploymentGateway.Proofs.Program.Change
/-!
The one form of the operations that read an object and write it back: checks, a search for the object
in the places where it may be, a change of what was found, and a write of the changed object.
-/

set_option autoImplicit false

namespace DeploymentGateway

open Cluster

/-- What an operation makes of an object that it has found, where it writes that, and how the write
ends. -/
structure Rewrite where
  kind : ResourceKind
  «namespace» : String
  change : Json → Outcome Json
  failure : Json → ClusterError → Failure
  result : Json → Deployment

/-- A place where an object may be, and how to go on with the one that is there. -/
structure Place where
  kind : ResourceKind
  «namespace» : String
  name : String
  go : Json → Program Deployment

namespace Rewrite

def write (rewrite : Rewrite) (changed : Json) : Program Deployment := do
  let updated ← .expect (← .update rewrite.kind rewrite.namespace changed) (rewrite.failure changed)
  return rewrite.result updated

/-- Change an object and write it back. -/
def program (rewrite : Rewrite) (object : Json) : Program Deployment := do
  let changed ← .ofOutcome (rewrite.change object)
  .connect .cluster
  rewrite.write changed

def place (rewrite : Rewrite) (name : String) : Place :=
  ⟨rewrite.kind, rewrite.namespace, name, rewrite.program⟩

/-- A rewrite never fails after its write. -/
theorem careful_program (rewrite : Rewrite) (object : Json) {refusal : Failure → Prop} :
    (rewrite.program object).Careful refusal := by
  rcases changed : rewrite.change object with failure | new
  · simp [program, changed]
  simp only [program, changed, Program.ofOutcome, Program.done_ok_bind]
  refine Program.careful_call_of_reads rfl fun reply => ?_
  rcases reply with failure | ⟨⟩
  · trivial
  · rintro (error | updated)
    · exact (if_neg (by simp [Call.changes, Call.isRefused])).mpr trivial
    · exact (if_pos rfl).mpr trivial

end Rewrite

def Place.key (place : Place) : ObjectKey :=
  Store.key place.kind place.namespace place.name

/-- A search of an operation for its object. -/
structure Search where
  backend : String
  operation : String
  id : String
  places : Outcome (List Place)

namespace Search

/-- Go on with the object in the first of some places that has one. -/
def seek (search : Search) : List Place → Program Deployment
  | [] => .fail (.deploymentNotFound search.id)
  | place :: rest => do
    match ← .get place.kind place.namespace place.name with
    | .ok object => place.go object
    | .error (.notFound _ _) => search.seek rest
    | .error error => .fail (.failed search.backend search.operation search.id (.cluster error))

/-- The operation that searches. -/
def program (search : Search) : Program Deployment := do
  .checkpoint
  let places ← .ofOutcome search.places
  .connect .cluster
  search.seek places

theorem seek_singleton (search : Search) (place : Place) :
    search.seek [place] =
      (do
        let reply ← Program.get place.kind place.namespace place.name
        let object ← Program.expect reply
          (deploymentFailure search.backend search.operation search.id)
        place.go object) := by
  refine congrArg (Program.call _) (funext fun reply => ?_)
  rcases reply with (_ | _ | _ | _) | object <;> rfl

theorem careful_seek (search : Search) {refusal : Failure → Prop} {places : List Place}
    (careful : ∀ place ∈ places, ∀ object, (place.go object).Careful refusal) :
    (search.seek places).Careful refusal := by
  induction places with
  | nil => trivial
  | cons place rest ih =>
    refine Program.careful_call_of_reads rfl fun reply => ?_
    rcases reply with (_ | _ | _ | _) | object
    · exact ih fun other mem => careful other (List.mem_cons_of_mem _ mem)
    · trivial
    · trivial
    · trivial
    · exact careful place List.mem_cons_self object

/-- A search is as careful as what it goes on with. -/
theorem careful_program (search : Search) {refusal : Failure → Prop}
    (careful : ∀ places, search.places = .ok places → ∀ place ∈ places, ∀ object,
      (place.go object).Careful refusal) : search.program.Careful refusal := by
  refine Program.careful_call_of_reads rfl fun reply => ?_
  rcases reply with failure | ⟨⟩
  · trivial
  rcases found : search.places with failure | places
  · trivial
  refine Program.careful_call_of_reads rfl fun reply => ?_
  rcases reply with failure | ⟨⟩
  · trivial
  · exact search.careful_seek (careful places found)

end Search

end DeploymentGateway
