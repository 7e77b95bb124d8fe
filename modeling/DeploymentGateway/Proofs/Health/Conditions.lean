import DeploymentGateway.Health.Composition
import DeploymentGateway.Health.Reconciliation
import DeploymentGateway.Proofs.Text.Letters
import Mathlib.Data.List.Pairwise
/-!
The verdicts that rest on conditions. Each asks for the conditions of a few types, so neither the order in
which conditions are reported nor the ones of other types have a part in it.
-/

set_option autoImplicit false

namespace DeploymentGateway.Health

open Cluster Text

/-- No two conditions are of one type, up to the case of letters. -/
def Distinct (conditions : List Condition) : Prop :=
  conditions.Pairwise fun first second => sameIgnoringCase first.type second.type = false

instance (conditions : List Condition) : Decidable (Distinct conditions) :=
  inferInstanceAs (Decidable (List.Pairwise _ _))

/-- A condition is of none of the types. -/
def Foreign (types : List String) (condition : Condition) : Prop :=
  ∀ type ∈ types, sameIgnoringCase condition.type type = false

instance (types : List String) (condition : Condition) : Decidable (Foreign types condition) :=
  inferInstanceAs (Decidable (∀ type ∈ types, _))

/-- A list is another one in any order, with foreign conditions put in anywhere. -/
def Rearranged (types : List String) (conditions other : List Condition) : Prop :=
  ∃ extra, (∀ condition ∈ extra, Foreign types condition) ∧ other.Perm (conditions ++ extra)

/-! Conditions of one type. -/

/-- At most one condition of a list is of a type. -/
private def Sole (conditions : List Condition) (type : String) : Prop :=
  ∀ first ∈ conditions, ∀ second ∈ conditions, sameIgnoringCase first.type type = true →
    sameIgnoringCase second.type type = true → first = second

private theorem Distinct.sole {conditions : List Condition} (distinct : Distinct conditions)
    (type : String) : Sole conditions type := by
  have symmetric : Std.Symm fun first second : Condition =>
      sameIgnoringCase first.type second.type = false := by
    refine ⟨fun first second different => ?_⟩
    rw [← Bool.not_eq_true] at different ⊢
    exact fun same => different (sameIgnoringCase_symm same)
  intro first here second there ofType ofType'
  by_contra different
  have apart := List.Pairwise.forall distinct here there different
  have same := sameIgnoringCase_trans ofType (sameIgnoringCase_symm ofType')
  exact absurd same (by simp [apart])

private theorem findCondition_eq_some_iff {conditions : List Condition} {type : String}
    (sole : Sole conditions type) (condition : Condition) :
    findCondition conditions type = some condition ↔
      condition ∈ conditions ∧ sameIgnoringCase condition.type type = true := by
  have holds : ∀ {found}, findCondition conditions type = some found →
      found ∈ conditions ∧ sameIgnoringCase found.type type = true := by
    intro found first
    rw [findCondition] at first
    exact ⟨List.mem_of_find?_eq_some first, by simpa using List.find?_some first⟩
  refine ⟨holds, fun ⟨mem, ofType⟩ => ?_⟩
  have there : (findCondition conditions type).isSome = true := by
    rw [findCondition, List.find?_isSome]
    exact ⟨condition, mem, ofType⟩
  obtain ⟨found, first⟩ := Option.isSome_iff_exists.mp there
  obtain ⟨mem', ofType'⟩ := holds first
  rw [first, sole found mem' condition mem ofType' ofType]

theorem Distinct.findCondition_eq_some_iff {conditions : List Condition} (distinct : Distinct conditions)
    (type : String) (condition : Condition) :
    findCondition conditions type = some condition ↔
      condition ∈ conditions ∧ sameIgnoringCase condition.type type = true :=
  Health.findCondition_eq_some_iff (distinct.sole type) condition

private theorem mem_rearranged_iff {types : List String} {conditions other : List Condition}
    (rearranged : Rearranged types conditions other) {type : String} (asked : type ∈ types)
    {condition : Condition} (ofType : sameIgnoringCase condition.type type = true) :
    condition ∈ other ↔ condition ∈ conditions := by
  obtain ⟨extra, foreign, perm⟩ := rearranged
  rw [perm.mem_iff, List.mem_append]
  refine ⟨fun mem => mem.resolve_right fun inside => ?_, .inl⟩
  exact absurd ofType (by simp [foreign condition inside type asked])

/-- Of the types that are asked, a rearranged list has the same conditions. -/
theorem Distinct.findCondition_rearranged {types : List String} {conditions other : List Condition}
    (distinct : Distinct conditions) (rearranged : Rearranged types conditions other) {type : String}
    (asked : type ∈ types) : findCondition other type = findCondition conditions type := by
  have sole : Sole other type := by
    intro first here second there ofType ofType'
    have here' := (mem_rearranged_iff rearranged asked ofType).mp here
    have there' := (mem_rearranged_iff rearranged asked ofType').mp there
    exact distinct.sole type first here' second there' ofType ofType'
  refine Option.ext fun condition => ?_
  rw [Health.findCondition_eq_some_iff sole, distinct.findCondition_eq_some_iff]
  exact and_congr_left fun ofType => mem_rearranged_iff rearranged asked ofType

/-! What the verdicts ask for. -/

def Reconciliation.asked : List String :=
  ["Ready", "Reconciling"]

def Composition.asked : List String :=
  ["Healthy", "Synced", "Installed", "Ready"]

theorem Reconciliation.evaluate_congr {conditions other : List Condition}
    (same : ∀ type ∈ asked, findCondition other type = findCondition conditions type)
    (suspended deleting : Bool) :
    evaluate other suspended deleting = evaluate conditions suspended deleting := by
  have ready := same "Ready" (by decide)
  have reconciling := same "Reconciling" (by decide)
  simp only [evaluate, ready, reconciling]

theorem Composition.evaluate_congr {conditions other : List Condition}
    (same : ∀ type ∈ asked, findCondition other type = findCondition conditions type)
    (deleting : Bool) : evaluate other deleting = evaluate conditions deleting := by
  have reports : ∀ type ∈ asked, reported other type = reported conditions type := by
    intro type mem
    funext status
    simp only [reported, same type mem]
  have healthy := reports "Healthy" (by decide)
  have synced := reports "Synced" (by decide)
  have installed := reports "Installed" (by decide)
  have ready := reports "Ready" (by decide)
  simp only [evaluate, decisive, List.findSome?_cons, List.findSome?_nil, healthy, synced, installed, ready]

theorem Composition.reported_isSome {conditions : List Condition} (distinct : Distinct conditions)
    {type status : String} {condition : Condition} (mem : condition ∈ conditions)
    (ofType : sameIgnoringCase condition.type type = true)
    (said : sameIgnoringCase condition.status status = true) :
    ∃ message, reported conditions type status = some message := by
  have found := (distinct.findCondition_eq_some_iff type condition).mpr ⟨mem, ofType⟩
  simp [reported, found, said]

/-- The condition Healthy or Synced is false. -/
def Composition.Broken (conditions : List Condition) : Prop :=
  ∃ condition ∈ conditions, sameIgnoringCase condition.status "False" = true ∧
    (sameIgnoringCase condition.type "Healthy" = true ∨ sameIgnoringCase condition.type "Synced" = true)

theorem Composition.evaluate_of_broken {conditions : List Condition} (distinct : Distinct conditions)
    (broken : Broken conditions) :
    (evaluate conditions false).status = .failed ∧ (evaluate conditions false).progress = 0 := by
  obtain ⟨condition, mem, isFalse, healthy | synced⟩ := broken
  · obtain ⟨message, unhealthy⟩ := reported_isSome distinct mem healthy isFalse
    simp [evaluate, unhealthy]
  · obtain ⟨message, unsynced⟩ := reported_isSome distinct mem synced isFalse
    rcases unhealthy : reported conditions "Healthy" "False" with _ | message'
    · simp [evaluate, unhealthy, unsynced]
    · simp [evaluate, unhealthy]

/-- The verdicts on conditions that are rearranged are the same, a failure that is reported is not outweighed,
and a deletion decides over everything. -/
structure Independent (conditions : List Condition) : Prop where
  reconciliation : ∀ other suspended deleting, Rearranged Reconciliation.asked conditions other →
    Reconciliation.evaluate other suspended deleting =
      Reconciliation.evaluate conditions suspended deleting
  composition : ∀ other deleting, Rearranged Composition.asked conditions other →
    Composition.evaluate other deleting = Composition.evaluate conditions deleting
  broken : Composition.Broken conditions →
    (Composition.evaluate conditions false).status = .failed ∧
      (Composition.evaluate conditions false).progress = 0
  reconciliationDeleted : ∀ suspended, Reconciliation.evaluate conditions suspended true = .deleting
  compositionDeleted : Composition.evaluate conditions true = .deleting

theorem verdicts_of_distinct {conditions : List Condition} (distinct : Distinct conditions) :
    Independent conditions where
  reconciliation _ suspended deleting rearranged :=
    Reconciliation.evaluate_congr (fun _ => distinct.findCondition_rearranged rearranged)
      suspended deleting
  composition _ deleting rearranged :=
    Composition.evaluate_congr (fun _ => distinct.findCondition_rearranged rearranged) deleting
  broken := Composition.evaluate_of_broken distinct
  reconciliationDeleted _ := rfl
  compositionDeleted := rfl

private def observed (type status reason : String) : Condition where
  type := type
  status := status
  reason := reason
  message := ""
  lastTransition := none

/-- A composite that is healthy and ready but not synchronized has failed, and so it has when its conditions
come in another order with two unrelated ones among them. -/
theorem verdicts_of_distinct_unsynced :
    let conditions := [observed "Ready" "True" "Available", observed "Healthy" "True" "",
      observed "Synced" "False" "ReconcileError"]
    let other := [observed "Responsive" "False" "Timeout", observed "Synced" "False" "ReconcileError",
      observed "Ready" "True" "Available", observed "responsive" "True" "",
      observed "Healthy" "True" ""]
    Distinct conditions ∧ Rearranged Composition.asked conditions other ∧
      Composition.Broken conditions ∧
      Composition.evaluate other false = Composition.evaluate conditions false ∧
      (Composition.evaluate conditions false).status = .failed := by
  intro conditions other
  have distinct : Distinct conditions := by decide
  have rearranged : Rearranged Composition.asked conditions other := by
    refine ⟨[observed "Responsive" "False" "Timeout", observed "responsive" "True" ""], ?_, ?_⟩
    · decide
    · decide
  have broken : Composition.Broken conditions :=
    ⟨observed "Synced" "False" "ReconcileError", by decide, by decide, by decide⟩
  have verdicts := verdicts_of_distinct distinct
  exact ⟨distinct, rearranged, broken, verdicts.composition other false rearranged,
    (verdicts.broken broken).1⟩

end DeploymentGateway.Health
