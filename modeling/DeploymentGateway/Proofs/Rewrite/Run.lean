import DeploymentGateway.Proofs.Program.Run
import DeploymentGateway.Proofs.Rewrite.Search
/-!
What rewrites and searches leave of the objects of the cluster. A rewrite fails and leaves them, or it puts
one object in place; a search leaves what it leaves that it goes on with.
-/

set_option autoImplicit false

namespace DeploymentGateway

open Cluster

variable {now : Time.Instant} {objects : Objects} {post : Outcome Deployment → Objects → Prop}

theorem Rewrite.ensures_program {rewrite : Rewrite} {object : Json}
    (fails : ∀ failure, post (.error failure) objects)
    (written : ∀ (store : Store) changed current new, rewrite.change object = .ok changed →
      objects.get? (Store.key rewrite.kind rewrite.namespace (nameOf changed)) = some current →
      new = store.written (Store.succeeding current changed) →
      post (.ok (rewrite.result new))
        (objects.insert (Store.key rewrite.kind rewrite.namespace (nameOf changed)) new)) :
    (rewrite.program object).Ensures .objects now objects post := by
  refine Program.Ensures.check (fun failure _ => fails failure) fun changed made => ?_
  refine Program.Ensures.connect (fails _) ?_
  refine Program.Ensures.update (fun error => ?_) fun store current new found placed => ?_
  · exact Program.Ensures.done (fails _)
  · exact Program.Ensures.done (written store changed current new made found placed)

theorem Search.ensures_program {search : Search}
    (fails : ∀ failure, post (.error failure) objects)
    (goes : ∀ places, search.places = .ok places → ∀ place ∈ places, ∀ object,
      objects.get? place.key = some object → (place.go object).Ensures .objects now objects post) :
    search.program.Ensures .objects now objects post := by
  have seeks : ∀ places : List Place, (∀ place ∈ places, ∀ object,
      objects.get? place.key = some object → (place.go object).Ensures .objects now objects post) →
      (search.seek places).Ensures .objects now objects post := by
    intro places goes
    induction places with
    | nil => exact Program.Ensures.done (fails _)
    | cons place rest ih =>
      refine Program.Ensures.get (fun _ => ?_) fun object found => ?_
      · exact ih fun other mem => goes other (List.mem_cons_of_mem _ mem)
      · exact goes place List.mem_cons_self object found
  refine Program.Ensures.checkpoint (fails _) ?_
  refine Program.Ensures.check (fun failure _ => fails failure) fun places found => ?_
  exact Program.Ensures.connect (fails _) (seeks places (goes places found))

end DeploymentGateway
