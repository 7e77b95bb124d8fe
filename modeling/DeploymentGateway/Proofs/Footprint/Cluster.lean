import DeploymentGateway.Proofs.Creation.Object
import DeploymentGateway.Proofs.Identity.Cluster
import DeploymentGateway.Proofs.Program.Scope
/-!
What operations on objects of the cluster may change. Each of them writes under the name that it was given,
or under the name of an object that it has read; and as every object has the name it is stored under, these
are the places that the operation addresses.
-/

set_option autoImplicit false

namespace DeploymentGateway

open Cluster

/-- Whatever comes of it, a program changes only some of the objects. -/
abbrev Program.Confined {α : Type} (now : Time.Instant) (touched : ObjectKey → Prop)
    (objects : Objects) (p : Program α) : Prop :=
  p.Ensures .objects now objects fun _ after => ChangesOnly touched objects after

theorem Program.ReadOnly.confined {α : Type} {p : Program α} (reads : p.ReadOnly)
    (now : Time.Instant) (touched : ObjectKey → Prop) (objects : Objects) :
    p.Confined now touched objects := by
  refine (reads.ensures objects).mono ?_
  rintro outcome _ rfl
  exact .refl touched _

/-! Every object keeps the name it is stored under. -/

theorem Memory.named_answerTo (now : Time.Instant) (waits : Bool) (c : Call) (memory : Memory)
    (named : Named memory.cluster.objects) :
    Named (memory.answerTo now waits c).2.cluster.objects := by
  have write : ∀ key object, nameOf object = key.name →
      Named (memory.cluster.write key object).2.objects := by
    intro key object own other found stored
    rcases memory.cluster.get?_write_cases stored with ⟨rfl, rfl⟩ | old
    · exact (Store.nameOf_written memory.cluster object).trans own
    · exact named other found old
  cases c with
  | create kind «namespace» object =>
    rcases memory.cluster.create_cases now kind «namespace» object with
      ⟨error, run⟩ | ⟨nonempty, -, run⟩
    · simpa [run] using named
    · simpa [run] using write _ _ (Store.nameOf_admitted now kind «namespace» rfl nonempty)
  | update kind «namespace» object =>
    rcases memory.cluster.update_cases kind «namespace» object with
      ⟨error, run⟩ | ⟨current, -, -, -, run⟩
    · simpa [run] using named
    · have own : nameOf (Store.succeeding current object) = nameOf object :=
        nameOf_set_of_diverges (by simp) _ _
      simpa [run] using write (Store.key kind «namespace» (nameOf object)) _ own
  | delete kind «namespace» name =>
    rcases memory.cluster.delete_cases kind «namespace» name with ⟨error, run⟩ | run
    · simpa [run] using named
    · simp only [Memory.answerTo_delete, Memory.answer, Memory.withCluster, run]
      exact fun key object left => named key object (SortedMap.get?_of_get?_erase left)
  | _ => exact named

/-- Whatever a program does, every object still has the name it is stored under. -/
theorem Program.ensures_named {α : Type} {now : Time.Instant} {objects : Objects}
    (named : Named objects) (p : Program α) :
    p.Ensures .objects now objects fun _ after => Named after := by
  intro memory outcome after same run
  cases same
  exact run.keeps (fun memory => Named memory.cluster.objects) (Memory.named_answerTo now)
    (fun _ _ kept => kept) named

section

variable {now : Time.Instant} {objects : Objects} {touched : ObjectKey → Prop}

/-- A rewrite changes its object only, as it leaves that its name. -/
theorem Rewrite.confined {rewrite : Rewrite} {object : Json} {name : String}
    (named : nameOf object = name) (nonempty : name ≠ "") (edits : Edits rewrite.change)
    (here : touched (Store.key rewrite.kind rewrite.namespace name)) :
    (rewrite.program object).Confined now touched objects := by
  have unchanged : ChangesOnly touched objects objects := .refl touched objects
  refine Rewrite.ensures_program (fun _ => unchanged) fun store changed current new run _ _ => ?_
  have same : nameOf changed = name := by
    rw [edits.named object changed run (named ▸ nonempty), named]
  rw [same]
  exact unchanged.insert here new

/-- A program that puts an object under a name of its own changes nothing else. -/
theorem Program.confined_create {α : Type} {kind : ResourceKind} {«namespace» : String}
    {object : Json} {f : Except ClusterError Json → Program α}
    (here : touched (Store.key kind «namespace» (nameOf object)))
    (ends : ∀ reply, ∃ outcome, f reply = .done outcome) :
    (Program.create kind «namespace» object >>= f).Confined now touched objects := by
  have unchanged : ChangesOnly touched objects objects := .refl touched objects
  refine .create (fun error => ?_) fun store new _ _ => ?_
  · obtain ⟨outcome, ended⟩ := ends (.error error)
    rw [ended]
    exact .done unchanged
  · obtain ⟨outcome, ended⟩ := ends (.ok new)
    rw [ended]
    exact .done (unchanged.insert here new)

theorem Program.confined_delete {α : Type} {kind : ResourceKind} {«namespace» name : String}
    {f : Except ClusterError Unit → Program α} (here : touched (Store.key kind «namespace» name))
    (ends : ∀ reply, ∃ outcome, f reply = .done outcome) :
    (Program.delete kind «namespace» name >>= f).Confined now touched objects := by
  have unchanged : ChangesOnly touched objects objects := .refl touched objects
  refine .delete (fun _ => ?_) fun object _ => ?_
  · obtain ⟨outcome, ended⟩ := ends (.error (.notFound kind.kind name))
    rw [ended]
    exact .done unchanged
  · obtain ⟨outcome, ended⟩ := ends (.ok ())
    rw [ended]
    exact .done (unchanged.erase here)

end

namespace Application.OnCluster

variable {home : String} {now : Time.Instant} {objects : Objects} {touched : ObjectKey → Prop}

theorem sparesReleases_action (home : String) (now : Time.Instant) (action : Action) :
    (action.program (operations home now)).SparesReleases := by
  by_cases reads : action.reads = true
  · exact (readOnly_action home now reads).sparesReleases
  cases action with
  | uploadPackage upload => simp [operations, uploadPackage]
  | deletePackage id => simp [operations, deletePackage]
  | createDeployment request => simp [operations, createDeployment, forall_reply]
  | updateDeployment id update =>
    simp [operations, updateDeployment, application, write, forall_reply]
  | deleteDeployment id => simp [operations, deleteDeployment, forall_reply]
  | scaleDeployment id replicas =>
    simp [operations, scaleDeployment, application, write, forall_reply]
  | rollbackDeployment id revision =>
    simp [operations, rollbackDeployment, application, write, forall_reply]
  | _ => exact absurd rfl reads

theorem confined_createDeployment {request : DeploymentRequest}
    (here : touched (Store.key kind home request.name)) :
    (createDeployment home now request).Confined now touched objects := by
  have unchanged : ChangesOnly touched objects objects := .refl touched objects
  refine .checkpoint unchanged (.check (fun _ _ => unchanged) fun app built => ?_)
  rw [← (conveys_of_build built).named] at here
  refine .connect unchanged (Program.confined_create here fun reply => ?_)
  rcases reply with error | created <;> exact ⟨_, rfl⟩

theorem confined_deleteDeployment {id : String} (here : touched (Store.key kind home id)) :
    (deleteDeployment home id).Confined now touched objects := by
  have unchanged : ChangesOnly touched objects objects := .refl touched objects
  refine .checkpoint unchanged (.check (fun _ _ => unchanged) fun _ _ => .connect unchanged ?_)
  refine Program.confined_delete here fun reply => ?_
  rcases reply with error | ⟨⟩ <;> exact ⟨_, rfl⟩

section

variable (named : Named objects) {id : String} (here : touched (Store.key kind home id))

include named here

private theorem confined_search {operation : String} {check : Outcome Unit}
    {change : Json → Outcome Json} (edits : Edits change) :
    (applicationSearch home now operation id check change).program.Confined now touched objects := by
  refine Search.ensures_program (fun _ => .refl touched objects) ?_
  intro places asked place mem app stored
  obtain ⟨rfl, nonempty⟩ := applicationSearch_places asked
  obtain rfl := List.mem_singleton.mp mem
  exact Rewrite.confined (named _ _ stored) nonempty edits here

theorem confined_updateDeployment (update : DeploymentUpdate) :
    (updateDeployment home now id update).Confined now touched objects := by
  have search := Operation.program_eq_search now (.applicationUpdate home id update)
  change updateDeployment home now id update = _ at search
  rw [search]
  exact confined_search named here (edits_applyUpdate update)

theorem confined_scaleDeployment (replicas : Int32) :
    (scaleDeployment home now id replicas).Confined now touched objects := by
  have search := Operation.program_eq_search now (.applicationScale home id replicas)
  change scaleDeployment home now id replicas = _ at search
  rw [search]
  exact confined_search named here (edits_setReplicas replicas)

theorem confined_rollbackDeployment (revision : Int64) :
    (rollbackDeployment home now id revision).Confined now touched objects := by
  have search := Operation.program_eq_search now (.applicationRollback home id revision)
  change rollbackDeployment home now id revision = _ at search
  rw [search]
  exact confined_search named here (edits_pinned id revision)

end

end Application.OnCluster

/-- The id of the package that a configuration is. -/
def Composite.packageId (configuration : Json) : String :=
  PackageId.derive .crossplanePackage (configuration.stringAt ["spec", "package"]) ""

namespace Composite.OnCluster

variable {kind : ResourceKind} {now : Time.Instant} {objects : Objects} {touched : ObjectKey → Prop}

theorem sparesReleases_action (kind : ResourceKind) (now : Time.Instant) (action : Action) :
    (action.program (operations kind now)).SparesReleases := by
  by_cases reads : action.reads = true
  · exact (readOnly_action kind now reads).sparesReleases
  cases action with
  | uploadPackage upload => simp [operations, uploadPackage, forall_reply]
  | deletePackage id =>
    refine Program.sparesReleases_bind (by simp) fun _ => Program.sparesReleases_bind
      (readOnly_configurationById now id).sparesReleases fun configuration => ?_
    simp [forall_reply]
  | createDeployment request => simp [operations, createDeployment, forall_reply]
  | updateDeployment id update => simp [operations, updateDeployment, composite, forall_reply]
  | deleteDeployment id => simp [operations, deleteDeployment, forall_reply]
  | scaleDeployment id replicas => simp [operations, scaleDeployment]
  | rollbackDeployment id revision => simp [operations, rollbackDeployment]
  | _ => exact absurd rfl reads

theorem confined_createDeployment {request : DeploymentRequest}
    (here : touched (Store.key kind "" request.name)) :
    (createDeployment kind now request).Confined now touched objects := by
  have unchanged : ChangesOnly touched objects objects := .refl touched objects
  refine .checkpoint unchanged (.check (fun _ _ => unchanged) fun composite built => ?_)
  rw [← (conveys_of_build built).named] at here
  refine .connect unchanged (Program.confined_create here fun reply => ?_)
  rcases reply with error | created <;> exact ⟨_, rfl⟩

theorem confined_deleteDeployment {id : String} (here : touched (Store.key kind "" id)) :
    (deleteDeployment kind id).Confined now touched objects := by
  have unchanged : ChangesOnly touched objects objects := .refl touched objects
  refine .checkpoint unchanged (.check (fun _ _ => unchanged) fun _ _ => .connect unchanged ?_)
  refine Program.confined_delete here fun reply => ?_
  rcases reply with error | ⟨⟩ <;> exact ⟨_, rfl⟩

theorem confined_updateDeployment (named : Named objects) {id : String}
    (here : touched (Store.key kind "" id)) (update : DeploymentUpdate) :
    (updateDeployment kind now id update).Confined now touched objects := by
  rw [← compositeSearch_program]
  refine Search.ensures_program (fun _ => .refl touched objects) ?_
  intro places asked place mem object stored
  obtain ⟨composition, rfl, nonempty⟩ := compositeSearch_places asked
  obtain rfl := List.mem_singleton.mp mem
  exact Rewrite.confined (named _ _ stored) nonempty (edits_applyUpdate update composition) here

theorem confined_uploadPackage {upload : PackageUpload}
    (here : touched (Store.key configurationKind "" upload.name)) :
    (uploadPackage now upload).Confined now touched objects := by
  have unchanged : ChangesOnly touched objects objects := .refl touched objects
  refine .checkpoint unchanged (.check (fun _ _ => unchanged) fun configuration built => ?_)
  rw [← nameOf_buildConfiguration built] at here
  refine .connect unchanged (Program.confined_create here fun reply => ?_)
  rcases reply with error | created <;> exact ⟨_, rfl⟩

/-- An id leads to a configuration that is listed and is the package of that id, the first such one. -/
theorem ensures_configurationById (id : String) :
    (configurationById now id).Ensures .objects now objects fun outcome after => after = objects ∧
      ∀ configuration, outcome = .ok configuration →
        (Store.list { Store.empty with objects } configurationKind none none).find?
          (fun configuration => packageId configuration == id) = some configuration := by
  have listed : configurations.Ensures .objects now objects fun outcome after => after = objects ∧
      ∀ all, outcome = .ok all →
        all = Store.list { Store.empty with objects } configurationKind none none := by
    refine .connect ⟨rfl, nofun⟩ (.list (.done ⟨rfl, ?_⟩))
    rintro _ ⟨⟩
    rfl
  refine listed.bind ?_ ?_
  · rintro all _ ⟨rfl, same⟩
    rw [same all rfl]
    split
    · rename_i configuration first
      refine .done ⟨rfl, ?_⟩
      rintro _ ⟨⟩
      exact first
    · exact .done ⟨rfl, nofun⟩
  · rintro failure _ ⟨rfl, -⟩
    exact ⟨rfl, nofun⟩

theorem confined_deletePackage {id : String}
    (here : ∀ configuration ∈ Store.list { Store.empty with objects } configurationKind none none,
      packageId configuration = id →
        touched (Store.key configurationKind "" (nameOf configuration))) :
    (deletePackage now id).Confined now touched objects := by
  have unchanged : ChangesOnly touched objects objects := .refl touched objects
  refine .checkpoint unchanged ((ensures_configurationById id).bind ?_ ?_)
  · rintro configuration _ ⟨rfl, found⟩
    have first := found configuration rfl
    have listed := List.mem_of_find?_eq_some first
    have same : packageId configuration = id := by simpa using List.find?_some first
    refine .connect unchanged (Program.confined_delete (here configuration listed same) fun reply => ?_)
    rcases reply with error | ⟨⟩ <;> exact ⟨_, rfl⟩
  · rintro failure _ ⟨rfl, -⟩
    exact unchanged

end Composite.OnCluster

end DeploymentGateway
