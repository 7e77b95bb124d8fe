import DeploymentGateway.Cluster.Object
import DeploymentGateway.Proofs.Json.Path
/-!
The places in an object that the cluster itself looks at, and that a write elsewhere in the object is
not seen there.
-/

set_option autoImplicit false

namespace DeploymentGateway.Cluster

open Json (Path)

/-! Where an object carries its version, its generation and its name. -/

abbrev versionPath : Path := ["metadata", "resourceVersion"]

abbrev generationPath : Path := ["metadata", "generation"]

abbrev namePath : Path := ["metadata", "name"]

/-- An object with a name has no array on the way to it. -/
private theorem noArray_of_nameOf_ne {object : Json} (named : nameOf object ≠ "") (path : Path)
    (items : List Json) (ne : path ≠ namePath) (onWay : path <+: namePath) :
    object.lookup path ≠ some (.array items) := by
  intro found
  apply named
  obtain ⟨rest, whole⟩ := onWay
  have indexed : ∀ segment ∈ namePath, (Json.array items).child? segment = none := by
    intro segment mem
    rcases List.mem_pair.mp mem with rfl | rfl <;> rfl
  rcases path with _ | ⟨first, _ | ⟨second, path⟩⟩
  · cases found
    rw [nameOf, Json.stringAt, Json.string?At, Json.lookup, indexed _ (by simp)]
    rfl
  · obtain rfl : first = "metadata" := (List.cons.inj whole).1
    have below : object.child? "metadata" = some (.array items) := by
      simpa [Json.lookup] using found
    rw [nameOf, Json.stringAt, Json.string?At, Json.lookup, below, Option.bind_some, Json.lookup,
      indexed _ (by simp)]
    rfl
  · obtain ⟨rfl, rfl, rfl, -⟩ :
        first = "metadata" ∧ second = "name" ∧ path = [] ∧ rest = [] := by simpa using whole
    exact absurd rfl ne

/-- A write away from the name leaves an object with a name its name. -/
theorem nameOf_set {object : Json} {name : String} (named : nameOf object = name)
    (nonempty : name ≠ "") {path : Path} (away : Path.Diverges path namePath) (new : Json) :
    nameOf (object.set new path) = name := by
  subst named
  rw [nameOf, nameOf, Json.stringAt, Json.string?At, Json.lookup_set_of_diverges away]
  · rfl
  · intro c items toPath toName
    refine noArray_of_nameOf_ne nonempty c items ?_ toName
    rintro rfl
    exact away.2 toPath

/-- A write away from the name leaves an object its name, also where there is none. -/
theorem nameOf_set_of_diverges {path : Path} (away : Path.Diverges path namePath)
    (object new : Json) : nameOf (object.set new path) = nameOf object :=
  Json.stringAt_set_of_names away (by decide) object new

/-- A write away from the version leaves an object its version. -/
theorem version_set_of_diverges {path : Path} (away : Path.Diverges path versionPath)
    (object new : Json) :
    (object.set new path).stringAt versionPath = object.stringAt versionPath :=
  Json.stringAt_set_of_names away (by decide) object new

/-- A write away from the labels leaves an object its labels. -/
theorem labelsOf_set_of_diverges {path : Path} (away : Path.Diverges path ["metadata", "labels"])
    (object new : Json) : labelsOf (object.set new path) = labelsOf object := by
  rw [labelsOf, labelsOf, textsAt, textsAt, Json.lookup_set_of_names away (by decide)]

end DeploymentGateway.Cluster
