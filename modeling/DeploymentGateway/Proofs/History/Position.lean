import DeploymentGateway.Listing
import DeploymentGateway.Rules
import DeploymentGateway.Proofs.Program.Start
/-!
Histories and rollbacks agree. The position of a revision in a history that is shown is the position that
a rollback to it goes to: outside of the history a rollback fails without a change, and inside the first
change that it asks for, if it comes so far, is the one to the revision that is shown there.
-/

set_option autoImplicit false

namespace DeploymentGateway

open Cluster

/-- The failure to find a revision in a history. -/
def Failure.IsRevisionNotFound (failure : Failure) : Prop :=
  ∃ id revision available, failure = .revisionNotFound id revision available

/-- From a start on no revision is found to be missing, and if a change is asked for then it is first
one with a property. -/
def Start.Meets {α : Type} (targets : Call → Prop) : Start α → Prop
  | .ended (.ok _) => True
  | .ended (.error failure) => ¬ failure.IsRevisionNotFound
  | .reached c next => (Program.call c next).Avoids Failure.IsRevisionNotFound ∧ targets c

theorem Start.Meets.imp {α : Type} {targets wanted : Call → Prop} {start : Start α}
    (meets : start.Meets targets) (implies : ∀ c, targets c → wanted c) : start.Meets wanted := by
  rcases start with ⟨failure | a⟩ | ⟨c, next⟩
  · exact meets
  · exact meets
  · exact ⟨meets.1, implies c meets.2⟩

/-- A rollback to a revision starts as the history of its deployment has it: the entries are numbered in
order, a revision outside of them is refused, and the first change is the right one for the entry that
the revision names. -/
structure RollsBack (id : String) (revision : Int64) (revisions : List Revision)
    (targets : Nat → Revision → Call → Prop) (start : Start Deployment) : Prop where
  numbered : revisions.map (fun entry => entry.revision) =
    (List.range revisions.length).map Int64.ofNat
  negative : revision < 0 → start = .ended (.error (.invalid "revision"
    ("must be >= 0, got " ++ Text.signedDecimal revision.toInt)))
  outside : revisions.length ≤ revision.toInt →
    start = .ended (.error (.revisionNotFound id revision revisions.length))
  inside : 0 ≤ revision → ∀ entry, revisions[revision.toInt.toNat]? = some entry →
    start.Meets (targets revision.toInt.toNat entry)

section

variable {id : String} {revision : Int64} {available : Nat}

theorem checkRevision_of_nonneg (nonneg : 0 ≤ revision.toInt) :
    Rules.checkRevision revision = .ok () := by
  have notNegative : ¬ revision < 0 := by
    rw [Int64.lt_iff_toInt_lt]
    simpa using nonneg
  exact if_neg notNegative

theorem historyIndex_of_le (outside : available ≤ revision.toInt) :
    Listing.historyIndex id revision available =
      .error (.revisionNotFound id revision available) := by
  have beyond : ¬ (0 ≤ revision.toInt ∧ revision.toInt < available) := by omega
  exact if_neg beyond

theorem historyIndex_of_lt (nonneg : 0 ≤ revision.toInt)
    (inside : revision.toInt.toNat < available) :
    Listing.historyIndex id revision available = .ok revision.toInt.toNat := by
  have within : 0 ≤ revision.toInt ∧ revision.toInt < available := by omega
  exact if_pos within

theorem lt_of_historyIndex {index : Nat}
    (found : Listing.historyIndex id revision available = .ok index) : index < available := by
  unfold Listing.historyIndex at found
  dsimp only at found
  split at found
  · cases found
    omega
  · cases found

/-- It is enough that a rollback fails with the check of the revision, and otherwise goes to its
position in the history and from there to the right change. -/
theorem RollsBack.of_historyIndex {revisions : List Revision}
    {targets : Nat → Revision → Call → Prop} {start : Start Deployment}
    (tail : Nat → Start Deployment)
    (numbered : revisions.map (fun entry => entry.revision) =
      (List.range revisions.length).map Int64.ofNat)
    (refused : ∀ failure, Rules.checkRevision revision = .error failure →
      start = .ended (.error failure))
    (goes : Rules.checkRevision revision = .ok () →
      start = match Listing.historyIndex id revision revisions.length with
        | .ok index => tail index
        | .error failure => .ended (.error failure))
    (inside : ∀ index entry, revisions[index]? = some entry →
      (tail index).Meets (targets index entry)) :
    RollsBack id revision revisions targets start where
  numbered := numbered
  negative negative := refused _ (if_pos negative)
  outside outside := by
    have nonneg : 0 ≤ revision.toInt := by omega
    rw [goes (checkRevision_of_nonneg nonneg), historyIndex_of_le outside]
  inside positive entry found := by
    have nonneg : 0 ≤ revision.toInt := by simpa using Int64.le_iff_toInt_le.mp positive
    have short := (List.getElem?_eq_some_iff.mp found).1
    rw [goes (checkRevision_of_nonneg nonneg), historyIndex_of_lt nonneg short]
    exact inside _ entry found

end

/-- What is numbered by its place in a list is numbered in order. -/
theorem numbered_of_zipIdx {α : Type} (items : List α) (shown : α × Nat → Revision)
    (numbered : ∀ item index, (shown (item, index)).revision = Int64.ofNat index) :
    (items.zipIdx.map shown).map (fun entry => entry.revision) =
      (List.range (items.zipIdx.map shown).length).map Int64.ofNat := by
  have first : (fun entry => entry.revision) ∘ shown = fun place => Int64.ofNat place.2 :=
    funext fun place => numbered place.1 place.2
  rw [List.map_map, first, List.length_map, List.length_zipIdx, List.range_eq_range',
    ← List.zipIdx_map_snd 0 items, List.map_map]
  rfl

/-- What is shown at a place of a list is the item there. -/
theorem item_of_zipIdx {α : Type} {items : List α} {shown : α × Nat → Revision}
    {index : Nat} {entry : Revision} (found : (items.zipIdx.map shown)[index]? = some entry) :
    ∃ item, items[index]? = some item ∧ entry = shown (item, index) := by
  rw [List.getElem?_map, List.getElem?_zipIdx, Nat.zero_add] at found
  obtain ⟨place, there, rfl⟩ := Option.map_eq_some_iff.mp found
  obtain ⟨item, here, rfl⟩ := Option.map_eq_some_iff.mp there
  exact ⟨item, here, rfl⟩

@[simp]
theorem not_isRevisionNotFound_deploymentFailure (backend operation id : String)
    (error : ClusterError) :
    ¬ (deploymentFailure backend operation id error).IsRevisionNotFound := by
  rintro ⟨_, _, _, same⟩
  cases error <;> cases same

@[simp]
theorem not_isRevisionNotFound_unsupported (backend operation message : String) :
    ¬ (Failure.unsupported backend operation message).IsRevisionNotFound := by
  rintro ⟨_, _, _, same⟩
  cases same

@[simp]
theorem not_isRevisionNotFound_failed (backend operation resource : String) (cause : Cause) :
    ¬ (Failure.failed backend operation resource cause).IsRevisionNotFound := by
  rintro ⟨_, _, _, same⟩
  cases same

end DeploymentGateway
