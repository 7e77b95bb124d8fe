import DeploymentGateway.Cluster.Store
import DeploymentGateway.Proofs.Text.Split
/-!
Which objects a selector lists. A selector for one label says what it is meant to only as long as neither
the label nor its value has a mark of the selectors in it: a comma ends the term, and a further one begins.
-/

set_option autoImplicit false

namespace DeploymentGateway.Cluster.Store

/-- A term for a label with a value asks for that label with this value. -/
theorem termMatches_pair {name : String} (plain : '=' ∉ name.toList) (value : String)
    (labels : Labels) :
    termMatches labels (name ++ "=" ++ value) = (labels.get? name == some value) := by
  have cut : Text.cutFirst? '=' (name ++ "=" ++ value) = some (name, value) := by
    refine Text.cutFirst?_append (fun c mem => ?_) value
    rintro rfl
    exact plain mem
  rw [termMatches, cut]

theorem pair_isEmpty (name value : String) : (name ++ "=" ++ value).isEmpty = false := by
  rw [String.isEmpty_eq_false_iff]
  intro empty
  simp [String.append_eq_empty_iff] at empty

/-- A selector for a label with a value matches the objects that have the label with this value. -/
theorem selectorMatches_label {name value : String} (plain : ∀ c ∈ name.toList, c ≠ '=' ∧ c ≠ ',')
    (single : ',' ∉ value.toList) (object : Json) :
    selectorMatches (some (name ++ "=" ++ value)) object = true ↔
      (labelsOf object).get? name = some value := by
  have whole : Text.piecesAt ',' (name ++ "=" ++ value) = [name ++ "=" ++ value] := by
    rw [Text.piecesAt, Text.pieces_of_forall]
    · simp [String.append_assoc]
    · intro c mem
      simp only [String.toList_append, List.mem_append] at mem
      rcases mem with (mem | mem) | mem
      · simpa using (plain c mem).2
      · obtain rfl : c = '=' := by simpa using mem
        decide
      · simp only [beq_eq_false_iff_ne]
        rintro rfl
        exact single mem
  rw [selectorMatches, whole]
  simp [pair_isEmpty, termMatches_pair fun mem => (plain '=' mem).1 rfl]

/-- What is listed from all namespaces: the objects of the kind that the selector matches. -/
theorem mem_list_iff {store : Store} {kind : ResourceKind} {selector : Option String} {object : Json} :
    object ∈ store.list kind none selector ↔
      (∃ key, store.objects.get? key = some object ∧ key.plural = kind.plural) ∧
        selectorMatches selector object = true := by
  simp only [list, List.mem_filter, List.mem_map, Prod.exists, exists_eq_right]
  refine and_congr_left fun _ => exists_congr fun key => ?_
  simp [SortedMap.mem_toList_iff]

/-- A key is one of those that a listing of a kind looks at, in one namespace or in all. -/
def Covers (kind : ResourceKind) (home : Option String) (key : ObjectKey) : Prop :=
  key.plural = kind.plural ∧ (kind.namespaced = true → ∀ wanted ∈ home, key.namespace = wanted)

instance (kind : ResourceKind) (home : Option String) : DecidablePred (Covers kind home) := fun _ =>
  inferInstanceAs (Decidable (_ ∧ _))

/-- Without a selector what is listed is what the listing covers. -/
theorem list_eq (store : Store) (kind : ResourceKind) (home : Option String) :
    store.list kind home none =
      (store.objects.toList.filter fun entry => Covers kind home entry.1).map Prod.snd := by
  have every (objects : List Json) : objects.filter (selectorMatches none) = objects :=
    List.filter_eq_self.mpr fun _ _ => rfl
  rw [list, every]
  congr 2
  funext entry
  rw [Bool.eq_iff_iff]
  cases home <;> simp [Covers]

theorem mem_list_none_iff {store : Store} {kind : ResourceKind} {home : Option String}
    {object : Json} : object ∈ store.list kind home none ↔
      ∃ key, store.objects.get? key = some object ∧ Covers kind home key := by
  simp [list_eq, SortedMap.mem_toList_iff]

end DeploymentGateway.Cluster.Store
