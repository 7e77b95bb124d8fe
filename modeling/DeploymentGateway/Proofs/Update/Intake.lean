import DeploymentGateway.Proofs.Creation.Object
import DeploymentGateway.Proofs.Json.Writes
/-!
What an update writes into an object, and where. Values and labels go each to a place of its own, other things
that an update may ask for have fixed places, and the cluster counts its writes. None of these places contains
another one, so an update is a set of writes that do not disturb each other.
-/

set_option autoImplicit false

namespace DeploymentGateway

open Cluster

open Json (Path)

/-- The text of an extension, where there is one that is not blank. -/
def DeploymentUpdate.textOf? (update : DeploymentUpdate) (name : String) : Option String :=
  match update.extensions.get? name with
  | some (.string s) => if Text.isBlankText s then none else some s
  | _ => none

/-- How the objects of one kind take in what updates ask for: under which path each value goes and in which form,
where other texts of an update go, and which places are marked with the time. None of the places contains another
one or one of those that the cluster writes to, or the name. -/
structure Intake where
  kind : ResourceKind
  home : String
  values : Path
  form : Json → Json
  overrides : List ((DeploymentUpdate → Option String) × Path)
  marks : List Path
  read : Time.Instant → Json → Deployment
  apart : (values :: ["metadata", "labels"] :: (overrides.map Prod.snd ++
    (marks ++ [generationPath, versionPath, namePath]))).Pairwise Path.Diverges

namespace Intake

section

variable (intake : Intake) (update : DeploymentUpdate)

def valueWrites : List Json.Write :=
  update.values.toList.map fun field => (intake.values ++ [field.1], intake.form field.2)

def labelWrites : List Json.Write :=
  update.labels.toList.map fun field => (["metadata", "labels"] ++ [field.1], .string field.2)

def overrideWrites : List Json.Write :=
  intake.overrides.filterMap fun entry => (entry.1 update).map fun text => (entry.2, .string text)

/-- What an update asks for. -/
def edits : List Json.Write :=
  intake.valueWrites update ++ (labelWrites update ++ intake.overrideWrites update)

/-- The marks of an instant. -/
def stamps (now : Time.Instant) : List Json.Write :=
  intake.marks.map fun place => (place, .string now.textWithOffset)

/-- All places that an update writes to, with those that the cluster writes to. -/
def places : List Path :=
  (intake.edits update).map Prod.fst ++ (intake.marks ++ [generationPath, versionPath])

end

/-- The writes of the cluster, which counts generations and versions. -/
def counts (generation version : Json) : List Json.Write :=
  [(generationPath, generation), (versionPath, version)]

/-- An object has taken an update in: it has all that the update asks for, and is otherwise as it was. -/
structure Merged (intake : Intake) (update : DeploymentUpdate) (object new : Json) : Prop where
  values : ∀ name value, update.values.get? name = some value →
    new.lookup (intake.values ++ [name]) = some (intake.form value)
  labels : ∀ name text, update.labels.get? name = some text →
    new.lookup ["metadata", "labels", name] = some (.string text)
  overrides : ∀ asked place text, (asked, place) ∈ intake.overrides → asked update = some text →
    new.lookup place = some (.string text)
  elsewhere : object.Passable (intake.places update) →
    ∀ path, (∀ place ∈ intake.places update, place.Diverges path) →
      new.lookup path = object.lookup path

/-- An object has been written once more and says nothing new: only its marks are of another time, and the
cluster has counted on. -/
structure Renewed (intake : Intake) (later : Time.Instant) (object new : Json) : Prop where
  again : ∃ generation version, new = object.writes (intake.stamps later ++ counts generation version)
  elsewhere : ∀ path, (∀ place ∈ intake.marks ++ [generationPath, versionPath], place.Diverges path) →
    new.lookup path = object.lookup path

/-! The writes lie apart. -/

section

variable (intake : Intake) (update : DeploymentUpdate) (now : Time.Instant)
  (generation version : Json)

@[simp]
theorem map_fst_stamps : (intake.stamps now).map Prod.fst = intake.marks := by
  rw [stamps, List.map_map]
  exact List.map_id _

private theorem apart_fields {α : Type} (place : Path) (fields : SortedMap String α) (form : α → Json) :
    Json.Apart (fields.toList.map fun field => (place ++ [field.1], form field.2)) := by
  refine List.pairwise_map.mpr (fields.sorted.imp fun before => ?_)
  refine Path.diverges_append_singleton fun same => ?_
  rw [same] at before
  exact OrderedKey.before_irrefl _ before

private theorem prefix_of_mem_fields {α : Type} {place : Path} {fields : SortedMap String α}
    {form : α → Json} {edit : Json.Write}
    (mem : edit ∈ fields.toList.map fun field => (place ++ [field.1], form field.2)) :
    place <+: edit.1 := by
  obtain ⟨field, -, rfl⟩ := List.mem_map.mp mem
  exact List.prefix_append place _

/-- The writes at places that are fixed, and one of the name, which no update makes. -/
private def fixedWrites : List Json.Write :=
  intake.overrideWrites update ++
    (intake.stamps now ++ (counts generation version ++ [(namePath, .null)]))

private theorem fixedWrites_sublist :
    ((intake.fixedWrites update now generation version).map Prod.fst).Sublist
      (intake.overrides.map Prod.snd ++ (intake.marks ++ [generationPath, versionPath, namePath])) := by
  have given : ((intake.overrideWrites update).map Prod.fst).Sublist (intake.overrides.map Prod.snd) := by
    rw [overrideWrites]
    induction intake.overrides with
    | nil => exact .slnil
    | cons entry rest ih =>
      rcases asked : entry.1 update with _ | text
      · rw [List.filterMap_cons_none (by rw [asked]; rfl)]
        exact ih.cons _
      · rw [List.filterMap_cons_some (by rw [asked]; rfl)]
        exact ih.cons_cons _
  rw [fixedWrites, List.map_append, List.map_append, map_fst_stamps]
  exact given.append (.refl _)

private theorem apart_everything : Json.Apart (intake.edits update ++
    (intake.stamps now ++ (counts generation version ++ [(namePath, .null)]))) := by
  obtain ⟨fromValues, others⟩ := List.pairwise_cons.mp intake.apart
  obtain ⟨fromLabels, fixed⟩ := List.pairwise_cons.mp others
  have within (edit : Json.Write) (mem : edit ∈ intake.fixedWrites update now generation version) :
      edit.1 ∈ intake.overrides.map Prod.snd ++ (intake.marks ++ [generationPath, versionPath, namePath]) :=
    (intake.fixedWrites_sublist update now generation version).subset (List.mem_map_of_mem mem)
  have labelled : Json.Apart (labelWrites update ++
      intake.fixedWrites update now generation version) := by
    refine List.pairwise_append.mpr ⟨apart_fields _ _ _, ?_, fun edit mem other mem' => ?_⟩
    · exact List.pairwise_map.mp
        (fixed.sublist (intake.fixedWrites_sublist update now generation version))
    · exact (fromLabels other.1 (within other mem')).mono (prefix_of_mem_fields mem) List.prefix_rfl
  have valued : Json.Apart (intake.valueWrites update ++ (labelWrites update ++
      intake.fixedWrites update now generation version)) := by
    refine List.pairwise_append.mpr ⟨apart_fields _ _ _, labelled, fun edit mem other mem' => ?_⟩
    rcases List.mem_append.mp mem' with mem' | mem'
    · exact (fromValues _ List.mem_cons_self).mono (prefix_of_mem_fields mem) (prefix_of_mem_fields mem')
    · exact (fromValues other.1 (List.mem_cons_of_mem _ (within other mem'))).mono
        (prefix_of_mem_fields mem) List.prefix_rfl
  simpa only [edits, fixedWrites, List.append_assoc] using valued

/-- All writes of an update, and those of the cluster, lie apart. -/
theorem apart_writes :
    Json.Apart (intake.edits update ++ (intake.stamps now ++ counts generation version)) := by
  refine (intake.apart_everything update now generation version).sublist ?_
  rw [← List.append_assoc, ← List.append_assoc, ← List.append_assoc]
  exact List.sublist_append_left _ _

/-- An object stays where it is stored: neither its name nor its version are the caller's to write. -/
theorem diverges_of_mem_edits {edit : Json.Write} (mem : edit ∈ intake.edits update ++ intake.stamps now) :
    edit.1.Diverges namePath ∧ edit.1.Diverges versionPath := by
  have apart := intake.apart_everything update now .null .null
  rw [← List.append_assoc] at apart
  have away := (List.pairwise_append.mp apart).2.2 edit mem
  exact ⟨away (namePath, .null) (by simp), away (versionPath, .null) (by simp [counts])⟩

end

/-! What the writes make of an object. -/

section

variable {intake : Intake} {update : DeploymentUpdate} {now : Time.Instant} {object new : Json}
  {generation version : Json}

theorem merged (written : new = object.writes
    (intake.edits update ++ (intake.stamps now ++ counts generation version))) :
    intake.Merged update object new := by
  have apart := intake.apart_writes update now generation version
  have read (place : Path) (wanted : Json) (mem : (place, wanted) ∈ intake.edits update) :
      new.lookup place = some wanted := by
    rw [written]
    exact Json.lookup_writes_self apart (List.mem_append_left _ mem) object
  constructor
  · intro name value given
    refine read _ _ (List.mem_append_left _ ?_)
    exact List.mem_map.mpr ⟨(name, value), SortedMap.mem_toList_iff.mpr given, rfl⟩
  · intro name text given
    refine read _ _ (List.mem_append_right _ (List.mem_append_left _ ?_))
    exact List.mem_map.mpr ⟨(name, text), SortedMap.mem_toList_iff.mpr given, rfl⟩
  · intro asked place text known given
    refine read _ _ (List.mem_append_right _ (List.mem_append_right _ ?_))
    exact List.mem_filterMap.mpr ⟨(asked, place), known, by simp [given]⟩
  · intro passable path away
    have everywhere : (intake.edits update ++ (intake.stamps now ++ counts generation version)).map
        Prod.fst = intake.places update := by
      simp [places, counts]
    rw [written]
    refine Json.lookup_writes_of_diverges apart (everywhere ▸ passable) fun edit mem => away edit.1 ?_
    rw [← everywhere]
    exact List.mem_map_of_mem mem

/-- The same update again finds all that it asks for. -/
theorem renewed {later : Time.Instant} {again generation' version' : Json}
    (written : new = object.writes
      (intake.edits update ++ (intake.stamps now ++ counts generation version)))
    (rewritten : again = new.writes
      (intake.edits update ++ (intake.stamps later ++ counts generation' version'))) :
    intake.Renewed later new again := by
  have apart := intake.apart_writes update now generation version
  have settled : new.writes (intake.edits update) = new := by
    have own := List.pairwise_append.mp apart
    rw [written, Json.writes_swap own.2.2, Json.writes_append, Json.writes_writes own.1]
  have same : again = new.writes (intake.stamps later ++ counts generation' version') := by
    rw [rewritten, Json.writes_append, settled]
  have everywhere (time : Time.Instant) (g v : Json) :
      (intake.stamps time ++ counts g v).map Prod.fst = intake.marks ++ [generationPath, versionPath] := by
    simp [counts]
  refine ⟨⟨_, _, same⟩, fun path away => ?_⟩
  have apart' := intake.apart_writes update later generation' version'
  rw [same]
  refine Json.lookup_writes_of_diverges (List.pairwise_append.mp apart').2.1 ?_ fun edit mem =>
    away edit.1 (everywhere later generation' version' ▸ List.mem_map_of_mem mem)
  rw [everywhere, ← everywhere now generation version]
  intro place mem above onWay ne found read
  obtain ⟨⟨_, value⟩, wrote, rfl⟩ := List.mem_map.mp mem
  obtain ⟨fields, stands⟩ := Json.hasObject_writes apart (List.mem_append_right _ wrote) onWay ne object
  rw [← written, read] at stands
  exact ⟨fields, Option.some.inj stands⟩

end

end Intake

/-- A text that an update was found to give is the one that it gives. -/
theorem Rules.textOf?_of_optionalText {update : DeploymentUpdate} {name : String} {text : Option String}
    (asked : optionalText update.extensions name = .ok text) : update.textOf? name = text := by
  unfold optionalText at asked
  unfold DeploymentUpdate.textOf?
  split at asked
  all_goals rename_i given
  all_goals rw [given]
  all_goals cases asked
  all_goals rfl

private theorem setAll_labels (object : Json) (update : DeploymentUpdate) :
    object.setAll ["metadata", "labels"] update.labels.toFields =
      object.writes (Intake.labelWrites update) := by
  rw [Json.setAll_eq_writes, Labels.toFields, List.map_map]
  rfl

private theorem write_optional (object : Json) (text : Option String) (place : Path) :
    (match text with
      | some text => object.set (.string text) place
      | none => object) =
      object.writes (text.map fun text => (place, Json.string text)).toList := by
  cases text <;> rfl

namespace Application

/-- Applications have the values of their charts with their source, and the settings of the source beside it. -/
def intake (home : String) : Intake where
  kind := kind
  home := home
  values := ["spec", "source", "helm", "valuesObject"]
  form := id
  overrides := sourceFields.map fun field => (fun update => update.textOf? field, ["spec", "source", field])
  marks := []
  read := toDeployment
  apart := by decide

theorem applyUpdate_eq_writes (home : String) (app : Json) (update : DeploymentUpdate) :
    applyUpdate app update = app.writes ((intake home).edits update) := by
  have sources (object : Json) : object.setAll ["spec", "source"] (sourceFields.filterMap fun field =>
      match update.extensions.get? field with
      | some (.string s) => if Text.isBlankText s then none else some (field, Json.string s)
      | _ => none) = object.writes ((intake home).overrideWrites update) := by
    rw [Json.setAll_eq_writes, Intake.overrideWrites, intake, List.filterMap_map, List.map_filterMap]
    congr 2
    funext field
    simp only [Function.comp, DeploymentUpdate.textOf?]
    split
    · split <;> rfl
    · rfl
  refine (sources _).trans ?_
  rw [setAll_labels, Json.setAll_eq_writes, Intake.edits, Json.writes_append, Json.writes_append]
  rfl

end Application

namespace Composite

/-- The package that an update asks for. -/
def packageOf? (update : DeploymentUpdate) : Option String :=
  update.packageId.filter fun package => !package.isEmpty

/-- Composites have the values as parameters, and say which composition and package they are made from. -/
def intake (kind : ResourceKind) : Intake where
  kind := kind
  home := ""
  values := ["spec", "parameters"]
  form := id
  overrides := [
    (fun update => update.textOf? "composition", ["spec", "compositionRef", "name"]),
    (packageOf?, packageNote)]
  marks := []
  read := toDeployment
  apart := by decide

theorem applyUpdate_eq_writes (kind : ResourceKind) (composite : Json) {update : DeploymentUpdate}
    {composition : Option String} (asked : updatedComposition update = .ok composition) :
    applyUpdate composite update composition = composite.writes ((intake kind).edits update) := by
  have named : update.textOf? "composition" = composition := by
    obtain ⟨text, given, asked⟩ := Outcome.bind_eq_ok.mp asked
    rw [Rules.textOf?_of_optionalText given]
    rcases text with _ | text
    · cases asked
      rfl
    · dsimp only at asked
      rcases checked : Rules.checkName "extensions.composition" text with failure | ⟨⟩
      · rw [checked] at asked
        cases asked
      · rw [checked] at asked
        cases asked
        rfl
  have marked (object : Json) : markPackage object update.packageId =
      object.writes ((packageOf? update).map fun package => (packageNote, Json.string package)).toList := by
    unfold markPackage packageOf?
    rcases update.packageId with _ | package
    · rfl
    · by_cases empty : package.isEmpty <;> simp [Option.filter, empty]
  have overrides : (intake kind).overrideWrites update =
      (composition.map fun text => (["spec", "compositionRef", "name"], Json.string text)).toList ++
        ((packageOf? update).map fun package => (packageNote, Json.string package)).toList := by
    rw [Intake.overrideWrites, ← named]
    rcases first : update.textOf? "composition" with _ | text <;>
      rcases second : packageOf? update with _ | package <;> simp [intake, first, second]
  refine ((marked _).trans (congrArg (Json.writes · _) (write_optional _ _ _))).trans ?_
  rw [setAll_labels, Json.setAll_eq_writes, Intake.edits, overrides, Json.writes_append, Json.writes_append,
    Json.writes_append]
  rfl

end Composite

namespace Flux

/-- Kustomizations have the values as substitutions, which are texts, and the path that is applied; helm releases
have the values of their chart, and its version. Both carry the time of the last request to reconcile them. -/
def FluxKind.intake (home : String) : FluxKind → Intake
  | .kustomization =>
    { kind := kustomizationKind
      home
      values := ["spec", "postBuild", "substitute"]
      form := fun value => .string (textOf value)
      overrides := [(fun update => update.textOf? "path", ["spec", "path"])]
      marks := [requestedAt]
      read := fun now => toDeployment now .kustomization
      apart := by decide }
  | .helmRelease =>
    { kind := helmReleaseKind
      home
      values := ["spec", "values"]
      form := id
      overrides := [(fun update => update.textOf? "version", ["spec", "chart", "spec", "version"])]
      marks := [requestedAt]
      read := fun now => toDeployment now .helmRelease
      apart := by decide }

theorem applyUpdate_eq_writes (home : String) {kind : FluxKind} {object changed : Json}
    {update : DeploymentUpdate} {path version : Option String}
    (paths : update.textOf? "path" = path) (versions : update.textOf? "version" = version)
    (run : applyUpdate kind object update path version = .ok changed) :
    changed = object.writes ((kind.intake home).edits update) := by
  -- Here the labels are written last.
  have swapped (between : Json) :
      between.writes (Intake.labelWrites update ++ (kind.intake home).overrideWrites update) =
        (between.writes ((kind.intake home).overrideWrites update)).writes (Intake.labelWrites update) := by
    have apart := (kind.intake home).apart_writes update default .null .null
    have inner := (List.pairwise_append.mp (List.pairwise_append.mp apart).1).2.1
    rw [Json.writes_swap (List.pairwise_append.mp inner).2.2, Json.writes_append]
  rw [Intake.edits, Json.writes_append, swapped]
  cases kind with
  | helmRelease =>
    have overrides : (FluxKind.helmRelease.intake home).overrideWrites update =
        (version.map fun text => (["spec", "chart", "spec", "version"], Json.string text)).toList := by
      rw [Intake.overrideWrites, ← versions]
      rcases given : update.textOf? "version" with _ | text <;> simp [FluxKind.intake, given]
    have valued := Json.setAll_eq_writes object ["spec", "values"] update.values.toList
    rw [overrides]
    cases version <;> cases run <;> rw [setAll_labels, valued] <;> rfl
  | kustomization =>
    have overrides : (FluxKind.kustomization.intake home).overrideWrites update =
        (path.map fun text => (["spec", "path"], Json.string text)).toList := by
      rw [Intake.overrideWrites, ← paths]
      rcases given : update.textOf? "path" with _ | text <;> simp [FluxKind.intake, given]
    obtain ⟨substitute, scalar, run⟩ := Outcome.bind_eq_ok.mp run
    have valued : object.setAll ["spec", "postBuild", "substitute"] substitute =
        object.writes ((FluxKind.kustomization.intake home).valueWrites update) := by
      rw [substitutions_eq scalar, Json.setAll_eq_writes, FluxKind.keptValues, List.map_map]
      rfl
    rw [overrides]
    cases path <;> cases run <;> rw [setAll_labels, valued] <;> rfl

end Flux

end DeploymentGateway
