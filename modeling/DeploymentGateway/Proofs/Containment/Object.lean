import DeploymentGateway.Proofs.Admission
import DeploymentGateway.Proofs.Json.Writes
import DeploymentGateway.Proofs.Program.Upholds
/-!
Where deployments take their manifests from. A path that is accepted never leads above the directory that it is
resolved in. What is made from a request names an accepted path, if it names one, and a change gives an object no
other one.
-/

set_option autoImplicit false

namespace DeploymentGateway

open Cluster

open Json (Path)

namespace Rules

/-! Where a path leads. -/

/-- The directory that a segment of a path leads to: the empty one and one dot stay where they are, two dots lead
one up, if there is anything above, and any other segment leads down. -/
def descend (directory : List (List Char)) (segment : List Char) : List (List Char) :=
  if segment = [] ∨ segment = ['.'] then directory
  else if segment = ['.', '.'] then directory.dropLast
  else directory ++ [segment]

/-- The directory that some segments lead to, one after the other. -/
def walk (root : List (List Char)) (segments : List (List Char)) : List (List Char) :=
  segments.foldl descend root

private theorem prefix_descend {segment : List Char} (level : segment ≠ ['.', '.'])
    (directory : List (List Char)) : directory <+: descend directory segment := by
  rw [descend, if_neg level]
  split
  · exact List.prefix_rfl
  · exact List.prefix_append directory [segment]

/-- Only two dots lead up. -/
theorem prefix_walk {segments : List (List Char)} (level : ['.', '.'] ∉ segments)
    (root : List (List Char)) : root <+: walk root segments := by
  induction segments generalizing root with
  | nil => exact List.prefix_rfl
  | cons segment rest ih =>
    obtain ⟨other, level⟩ := List.ne_and_not_mem_of_not_mem_cons level
    exact (prefix_descend other.symm root).trans (ih level _)

/-- Cut at marks of either kind or only at some of them, a path inside has no segment of two dots. -/
theorem IsInside.level_of_pieces {value : String} (inside : IsInside value) {separates : Char → Bool}
    (marks : ∀ c, separates c = true → isPathMark c = true) :
    ['.', '.'] ∉ Text.pieces separates value.toList := by
  intro mem
  obtain ⟨before, after, whole, left, right⟩ := (Text.mem_pieces_iff.mp mem).2
  exact inside.level ⟨before, after, whole, fun c last => marks c (left c last),
    fun c first => marks c (right c first)⟩

end Rules

namespace Containment

/-- Where objects say which directory of a repository their manifests are in. -/
def sourcePlaces : List (ResourceKind × Path) :=
  [(Application.kind, ["spec", "source", "path"]), (Flux.kustomizationKind, ["spec", "path"])]

theorem application_mem_sourcePlaces : (Application.kind, ["spec", "source", "path"]) ∈ sourcePlaces := by
  decide

theorem kustomization_mem_sourcePlaces : (Flux.kustomizationKind, ["spec", "path"]) ∈ sourcePlaces := by
  decide

/-- The directory that an object of a kind names, if it names one, is an accepted path. -/
def Contained (plural : String) (object : Json) : Prop :=
  ∀ kind place, (kind, place) ∈ sourcePlaces → kind.plural = plural →
    ∀ found, object.lookup place = some found →
      ∃ path, found = .string path ∧ Rules.checkPath "extensions.path" path = .ok ()

/-- A write of an accepted path where the directory is named, or a write elsewhere. -/
def Safe (plural : String) (place : Path) (new : Json) : Prop :=
  ∀ kind source, (kind, source) ∈ sourcePlaces → kind.plural = plural →
    place.Diverges source ∨ place = source ∧ ∃ path, new = .string path ∧ Rules.IsInside path

section

variable {plural : String} {object new : Json} {place : Path}

/-- Directories are named by names. -/
private theorem names_of_mem_sourcePlaces {kind : ResourceKind} {place : Path}
    (mem : (kind, place) ∈ sourcePlaces) :
    ∀ segment ∈ place, Text.readNatural? Json.greatestIndex segment = none := by
  have names : ∀ entry ∈ sourcePlaces, ∀ segment ∈ entry.2,
      Text.readNatural? Json.greatestIndex segment = none := by decide
  exact names (kind, place) mem

theorem Contained.set (contained : Contained plural object) (safe : Safe plural place new) :
    Contained plural (object.set new place) := by
  intro kind source mem same found read
  rcases safe kind source mem same with away | ⟨rfl, path, rfl, inside⟩
  · rw [Json.lookup_set_of_names away (names_of_mem_sourcePlaces mem)] at read
    exact contained kind source mem same found read
  · rw [Json.lookup_set_self] at read
    cases read
    exact ⟨path, rfl, Rules.checkPath_ok_iff.mpr inside⟩

theorem Contained.setAll (contained : Contained plural object) {fields : List (String × Json)}
    (safe : ∀ field ∈ fields, Safe plural (place ++ [field.1]) field.2) :
    Contained plural (object.setAll place fields) := by
  induction fields generalizing object with
  | nil => exact contained
  | cons field rest ih =>
    obtain ⟨first, others⟩ := List.forall_mem_cons.mp safe
    exact ih (contained.set first) others

/-- A write away from all directories is safe. -/
theorem safe_of_diverges (away : ∀ entry ∈ sourcePlaces, place.Diverges entry.2) (new : Json) :
    Safe plural place new :=
  fun kind source mem _ => .inl (away (kind, source) mem)

theorem Contained.aside (contained : Contained plural object)
    (away : ∀ entry ∈ sourcePlaces, place.Diverges entry.2) (new : Json) :
    Contained plural (object.set new place) :=
  contained.set (safe_of_diverges away new)

theorem Contained.asideAll (contained : Contained plural object) (place : Path)
    (away : ∀ entry ∈ sourcePlaces, place.Diverges entry.2) (fields : List (String × Json)) :
    Contained plural (object.setAll place fields) :=
  contained.setAll fun field _ => safe_of_diverges (fun entry mem =>
    (away entry mem).mono (List.prefix_append place [field.1]) List.prefix_rfl) field.2

/-- Objects of one kind name one directory. -/
private theorem place_unique {kind kind' : ResourceKind} {place place' : Path}
    (mem : (kind, place) ∈ sourcePlaces) (mem' : (kind', place') ∈ sourcePlaces)
    (same : kind.plural = kind'.plural) : place = place' := by
  have once : ∀ entry ∈ sourcePlaces, ∀ other ∈ sourcePlaces, entry.1.plural = other.1.plural →
      entry.2 = other.2 := by decide
  exact once _ mem _ mem' same

/-- To name a directory by an accepted path is safe. -/
theorem safe_of_isInside {kind : ResourceKind} (mem : (kind, place) ∈ sourcePlaces) {path : String}
    (inside : Rules.IsInside path) : Safe kind.plural place (.string path) :=
  fun _ _ mem' same => .inr ⟨place_unique mem mem' same.symm, path, rfl, inside⟩

theorem contained_of_isInside {kind : ResourceKind} (mem : (kind, place) ∈ sourcePlaces) {path : String}
    (inside : Rules.IsInside path)
    (reads : ∀ found, object.lookup place = some found → found = .string path) :
    Contained kind.plural object := by
  intro kind' place' mem' same found read
  obtain rfl := place_unique mem' mem same
  exact ⟨path, reads found read, Rules.checkPath_ok_iff.mpr inside⟩

/-- Objects of other kinds name no directory. -/
theorem contained_of_other (other : ∀ entry ∈ sourcePlaces, entry.1.plural ≠ plural) (object : Json) :
    Contained plural object :=
  fun kind place mem same => absurd same (other (kind, place) mem)

end

/-- The cluster itself names no directory. -/
def rule : ObjectRule where
  Keeps := Contained
  placed _ _ _ _ contained := (contained.aside (by decide) _).aside (by decide) _
  admitted plural object now kind home store contained := by
    have placed : Contained plural
        (if kind.namespaced then object.set (.string home) ["metadata", "namespace"] else object) := by
      split
      · exact contained.aside (by decide) _
      · exact contained
    exact ((((placed.aside (by decide) _).aside (by decide) _).aside (by decide) _).aside (by decide) _).aside
      (by decide) _

end Containment

open Containment

/-! What operations make and change. -/

section

variable {object changed : Json}

private theorem isInside_of_hasPathInside {extensions : Extensions} {path : String}
    (inside : Rules.HasPathInside extensions) (given : extensions.get? "path" = some (.string path)) :
    Rules.IsInside path := by
  rcases inside _ given with absent | ⟨same, whole, keeps⟩
  · cases absent
  · cases whole
    exact keeps

namespace Application

private theorem string_of_lookup_newSource {repoUrl path targetRevision : String} {chart : Option String}
    {values : Extensions} {found : Json}
    (read : (newSource repoUrl path targetRevision chart values).lookup ["path"] = some found) :
    found = .string path := by
  have located (object : Json) (given : Bool) (new : Json) :
      (if given then object.set new ["helm", "valuesObject"] else object).lookup ["path"] =
        object.lookup ["path"] := by
    split
    · exact Json.lookup_set_of_names (by decide) (by decide) _ _
    · rfl
  have read := (located _ _ _).symm.trans read
  cases chart with
  | some chart =>
    rw [Json.lookup_set_of_names (by decide) (by decide)] at read
    simp [Json.lookup] at read
  | none =>
    rw [Json.lookup_set_self] at read
    exact (Option.some.inj read).symm

theorem contained_of_build {home : String} {request : DeploymentRequest}
    (built : build home request = .ok object) : Contained kind.plural object := by
  obtain ⟨-, -, built⟩ := Outcome.bind_eq_ok.mp built
  obtain ⟨-, -, built⟩ := Outcome.bind_eq_ok.mp built
  obtain ⟨repoUrl, -, built⟩ := Outcome.bind_eq_ok.mp built
  obtain ⟨path, -, built⟩ := Outcome.bind_eq_ok.mp built
  obtain ⟨⟨⟩, inside, built⟩ := Outcome.bind_eq_ok.mp built
  obtain ⟨chart, -, built⟩ := Outcome.bind_eq_ok.mp built
  obtain ⟨targetRevision, -, built⟩ := Outcome.bind_eq_ok.mp built
  obtain ⟨project, -, built⟩ := Outcome.bind_eq_ok.mp built
  obtain ⟨server, -, built⟩ := Outcome.bind_eq_ok.mp built
  obtain ⟨automated, -, built⟩ := Outcome.bind_eq_ok.mp built
  refine contained_of_isInside application_mem_sourcePlaces (Rules.checkPath_ok_iff.mp inside) fun found read => ?_
  have source : (newSource repoUrl (path.getD "") (targetRevision.getD "HEAD") chart
      request.values).lookup ["path"] = some found := by
    cases built
    split at read
    · rw [Json.lookup_set_of_names (by decide) (by decide)] at read
      simpa [Json.lookup] using read
    · simpa [Json.lookup] using read
  exact string_of_lookup_newSource source

theorem contained_applyUpdate {update : DeploymentUpdate} (inside : Rules.HasPathInside update.extensions)
    (contained : Contained kind.plural object) : Contained kind.plural (applyUpdate object update) := by
  have valued := contained.asideAll ["spec", "source", "helm", "valuesObject"] (by decide)
    update.values.toList
  have labelled := valued.asideAll ["metadata", "labels"] (by decide) update.labels.toFields
  refine labelled.setAll fun change mem => ?_
  obtain ⟨field, known, given⟩ := List.mem_filterMap.mp mem
  split at given
  · rename_i text found
    split at given
    · cases given
    · cases given
      by_cases path : field = "path"
      · subst path
        exact safe_of_isInside application_mem_sourcePlaces (isInside_of_hasPathInside inside found)
      · have others : ∀ field ∈ sourceFields, field ≠ "path" → ∀ entry ∈ sourcePlaces,
            Path.Diverges ["spec", "source", field] entry.2 := by decide
        exact safe_of_diverges (others field known path) _
  · cases given

theorem contained_of_setReplicas {replicas : Int32} (contained : Contained kind.plural object)
    (made : setReplicas object replicas = .ok changed) : Contained kind.plural changed := by
  unfold setReplicas at made
  split at made
  · cases made
  · cases made
    exact contained.aside (by decide) _

theorem contained_of_pinned {id : String} {revision : Int64} (contained : Contained kind.plural object)
    (made : OnCluster.pinned object id revision = .ok changed) : Contained kind.plural changed := by
  obtain ⟨index, -, made⟩ := Outcome.bind_eq_ok.mp made
  dsimp only at made
  split at made
  · cases made
  · cases made
    exact (contained.aside (by decide) _).aside (by decide) _

end Application

namespace Flux

theorem contained_of_buildKustomization {home source : String} {request : DeploymentRequest}
    (built : buildKustomization home request source = .ok object) :
    Contained kustomizationKind.plural object := by
  obtain ⟨path, -, built⟩ := Outcome.bind_eq_ok.mp built
  obtain ⟨⟨⟩, inside, built⟩ := Outcome.bind_eq_ok.mp built
  obtain ⟨interval, -, built⟩ := Outcome.bind_eq_ok.mp built
  have base (object : Json)
      (reads : object.lookup ["spec", "path"] = some (.string (path.getD "./"))) :
      Contained kustomizationKind.plural object := by
    refine contained_of_isInside kustomization_mem_sourcePlaces (Rules.checkPath_ok_iff.mp inside)
      fun found read => ?_
    exact Option.some.inj (read.symm.trans reads)
  split at built
  · cases built
    exact base _ (by simp [Json.lookup])
  · obtain ⟨substitute, -, built⟩ := Outcome.bind_eq_ok.mp built
    cases built
    exact (base _ (by simp [Json.lookup])).aside (by decide) _

theorem contained_helmRelease (object : Json) : Contained helmReleaseKind.plural object :=
  contained_of_other (by decide) object

theorem contained_gitRepository (object : Json) : Contained gitRepositoryKind.plural object :=
  contained_of_other (by decide) object

theorem contained_requestReconcile (kind : FluxKind) (contained : Contained kind.resource.plural object)
    (now : Time.Instant) : Contained kind.resource.plural (requestReconcile now object) :=
  contained.aside (by decide) _

theorem contained_of_applyUpdate {kind : FluxKind} {update : DeploymentUpdate} {path version : Option String}
    (inside : ∀ text ∈ path, Rules.IsInside text) (contained : Contained kind.resource.plural object)
    (made : applyUpdate kind object update path version = .ok changed) :
    Contained kind.resource.plural changed := by
  cases kind with
  | helmRelease => exact contained_helmRelease changed
  | kustomization =>
    obtain ⟨substitute, -, made⟩ := Outcome.bind_eq_ok.mp made
    have substituted := contained.asideAll ["spec", "postBuild", "substitute"] (by decide) substitute
    cases path with
    | none =>
      cases made
      exact substituted.asideAll ["metadata", "labels"] (by decide) _
    | some text =>
      cases made
      have placed := substituted.set (safe_of_isInside kustomization_mem_sourcePlaces (inside text rfl))
      exact placed.asideAll ["metadata", "labels"] (by decide) _

end Flux

end

end DeploymentGateway
