import DeploymentGateway.Proofs.Json.Ordered
/-!
The laws of places in a value. Writing, reading and removing go through a value in three ways: a read
follows names into objects and indices into arrays, a write makes an object of whatever stands in its way,
and a removal stops where there is no object. Under these laws they fit together all the same.
-/

set_option autoImplicit false

namespace DeploymentGateway.Json

/-- What a removal takes out is what stood at its place, and nothing stands there afterwards. -/
theorem lookup_of_removed {value found : Json} {path : Path}
    (taken : (value.remove path).2 = some found) :
    value.lookup path = some found ∧ (value.remove path).1.lookup path = none := by
  induction path generalizing value with
  | nil => cases taken
  | cons segment rest ih =>
    obtain ⟨fields, below, rfl, first, ⟨rfl, rfl, left⟩ | ⟨-, under, left⟩⟩ := remove_cases taken
    · exact ⟨by simp [lookup, child?, first], by simp [left, lookup, child?, Fields.get?_erase_self]⟩
    · obtain ⟨stood, gone⟩ := ih under
      exact ⟨by simp [lookup, child?, first, stood],
        by simp [left, lookup, child?, Fields.get?_insert_self, gone]⟩

/-- A removal further down puts what is left in the place of the first field on its way. -/
private theorem remove_cons {fields : List (String × Json)} {segment : String} {rest : Path}
    {below changed found : Json} (further : rest ≠ []) (first : Fields.get? segment fields = some below)
    (run : below.remove rest = (changed, some found)) :
    (Json.object fields).remove (segment :: rest) =
      (.object (Fields.insert segment changed fields), some found) := by
  obtain ⟨next, rest, rfl⟩ := List.exists_cons_of_ne_nil further
  simp [remove, first, run]

/-- To write at a new place below objects and to remove it again gives the value back. -/
theorem remove_set_of_absent {value : Json} {path : Path} (ordered : value.Ordered)
    (absent : value.lookup path = none)
    (stands : ∀ above, above <+: path → above ≠ path → value.HasObject above) (new : Json) :
    (value.set new path).remove path = (value, some new) := by
  induction path generalizing value with
  | nil => cases absent
  | cons segment rest ih =>
    obtain ⟨fields, whole⟩ := stands [] List.nil_prefix (List.cons_ne_nil _ _).symm
    cases whole
    have increasing : Fields.Increasing fields := ordered.fields.1
    rcases rest with _ | ⟨next, rest⟩
    · have new_field : Fields.get? segment fields = none := by simpa [lookup, child?] using absent
      simp [set, writableFields, remove, Fields.get?_insert_self,
        Fields.erase_insert_of_get?_eq_none new_field]
    · obtain ⟨under, below⟩ := stands [segment] (by simp) (by simp)
      have first : Fields.get? segment fields = some (.object under) := by
        simpa [lookup, child?] using below
      have back := @ih (.object under) (ordered.fields.2 _ (Fields.mem_of_get? first))
        (by simpa [lookup, child?, first] using absent) fun above onWay ne => by
          obtain ⟨inner, found⟩ := stands (segment :: above) (List.cons_prefix_cons.mpr ⟨rfl, onWay⟩)
            fun same => ne (List.cons.inj same).2
          exact ⟨inner, by simpa [lookup, child?, first] using found⟩
      have whole : (Json.object fields).set new (segment :: next :: rest) =
          .object (Fields.insert segment ((Json.object under).set new (next :: rest)) fields) := by
        rw [set, writableFields, first, Option.getD_some]
      rw [whole, remove_cons (List.cons_ne_nil _ _) (Fields.get?_insert_self _ _ _) back,
        Fields.insert_insert, increasing.insert_of_get? first]

/-- The laws of reading, writing and removing at the places of a value. -/
structure LensLaws (value : Json) : Prop where
  /-- A read sees what was written at its place. -/
  lookup_set : ∀ p v, (value.set v p).lookup p = some v
  /-- The second of two writes at a place stands for both. -/
  set_set : ∀ p v w, (value.set v p).set w p = value.set w p
  /-- Writes at places that do not contain each other can change their order. -/
  set_comm : ∀ p q v w, Path.Diverges p q → (value.set v p).set w q = (value.set w q).set v p
  /-- A write that meets no array is not seen beside its place. -/
  lookup_set_beside : ∀ p q v, Path.Diverges p q →
    (∀ above items, above <+: p → above ≠ p → value.lookup above ≠ some (.array items)) →
    (value.set v p).lookup q = value.lookup q
  /-- What is removed stood at the place, is gone, and was all that is seen to change. -/
  removed : ∀ p found, (value.remove p).2 = some found →
    value.lookup p = some found ∧ (value.remove p).1.lookup p = none ∧
      ∀ q, Path.Diverges p q → (value.remove p).1.lookup q = value.lookup q
  /-- A removal that finds nothing changes nothing. -/
  nothing_removed : ∀ p, (value.remove p).2 = none → (value.remove p).1 = value
  /-- A write at a new place below objects is undone by a removal. -/
  remove_set : value.Ordered → ∀ p v, value.lookup p = none →
    (∀ above, above <+: p → above ≠ p → value.HasObject above) →
    (value.set v p).remove p = (value, some v)

theorem lensLaws (value : Json) : LensLaws value where
  lookup_set p v := lookup_set_self value v p
  set_set p v w := Json.set_set value v w p
  set_comm _ _ v w apart := Json.set_comm apart value v w
  lookup_set_beside _ _ v apart noArray :=
    lookup_set_of_diverges apart value v fun above items toPlace toPath =>
      noArray above items toPlace fun same => apart.1 (same ▸ toPath)
  removed _ _ taken :=
    have ⟨stood, gone⟩ := lookup_of_removed taken
    ⟨stood, gone, fun _ apart => lookup_remove_of_diverges apart value⟩
  nothing_removed _ := remove_eq_of_none
  remove_set ordered _ v absent stands := remove_set_of_absent ordered absent stands v

/-- A record of metadata keeps its name when a namespace is written and removed again. -/
theorem lensLaws_metadata :
    let metadata : Json := .object [("metadata", .object [("name", .string "web")])]
    (metadata.set (.string "prod") ["metadata", "namespace"]).lookup ["metadata", "name"] =
        some (.string "web") ∧
      (metadata.set (.string "prod") ["metadata", "namespace"]).remove ["metadata", "namespace"] =
        (metadata, some (.string "prod")) ∧
      (metadata.remove ["metadata", "name"]).1.lookup ["metadata", "name"] = none := by
  intro metadata
  have objects : ∀ above, above <+: ["metadata", "namespace"] → above ≠ ["metadata", "namespace"] →
      metadata.HasObject above := by
    intro above onWay ne
    rcases above with _ | ⟨first, _ | ⟨second, _ | ⟨third, rest⟩⟩⟩
    · exact ⟨_, rfl⟩
    · obtain rfl : first = "metadata" := by simpa using onWay
      exact ⟨_, rfl⟩
    · exact absurd (onWay.eq_of_length rfl) ne
    · simp [List.cons_prefix_cons] at onWay
  have ordered : metadata.Ordered :=
    .object (List.pairwise_singleton _ _) (List.forall_mem_singleton.mpr
      (.object (List.pairwise_singleton _ _) (List.forall_mem_singleton.mpr (.string "web"))))
  have laws := lensLaws metadata
  refine ⟨?_, laws.remove_set ordered _ _ rfl objects, (laws.removed _ (.string "web") rfl).2.1⟩
  have apart : Path.Diverges ["metadata", "namespace"] ["metadata", "name"] := by simp
  refine (laws.lookup_set_beside _ _ _ apart fun above items onWay ne array => ?_).trans rfl
  obtain ⟨fields, object⟩ := objects above onWay ne
  cases array.symm.trans object

/-- A write through an array is seen beside its place: the other items go with the array. -/
example : ((Json.object [("items", .array [.null, .null])]).set .null ["items", "0"]).lookup ["items", "1"] = none :=
  rfl

end DeploymentGateway.Json
