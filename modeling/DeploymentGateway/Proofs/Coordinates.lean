import DeploymentGateway.Proofs.Coordinates.Action
import DeploymentGateway.Proofs.Program.Upholds
import DeploymentGateway.Rehearsal.Session
/-!
What the cluster in memory keeps to while objects are put in place and operations go on side by side: every object
stands where its own metadata say, so that whatever is listed can be got, and no version is ever given out twice.
-/

set_option autoImplicit false

namespace DeploymentGateway

open Cluster

variable {kinds : List ResourceKind}

/-- The operations of back ends that keep objects of the kinds in the cluster, without what they result in. -/
inductive OperatesOn (kinds : List ResourceKind) : Program Unit → Prop where
  | action (settings : Settings) (onCluster : settings.kind ≠ .argocdRest)
    (known : settings.resourceKinds ⊆ kinds) (now : Time.Instant) (action : Action) :
    OperatesOn kinds (action.program (settings.operations now) >>= fun _ => pure ())

theorem OperatesOn.honours {p : Program Unit} (operates : OperatesOn kinds p) : p.Honours (.inPlace kinds) := by
  obtain ⟨settings, onCluster, known, now, action⟩ := operates
  exact (settings.honours_action onCluster known now action).bind fun _ => .done _

/-- The cluster in memory gives what lies where it was looked for, and its objects stay in their places. -/
theorem Contract.keeps_inPlace (distinct : (kinds.map ResourceKind.plural).Nodup) :
    (Contract.inPlace kinds).Keeps fun memory => memory.cluster.WellKept kinds where
  answers {memory} kept now waits c sends := by
    cases c with
    | get kind «namespace» name =>
      refine ⟨?_, kept⟩
      change (Contract.inPlace kinds).Gives (.get kind «namespace» name) (memory.cluster.get kind «namespace» name)
      rcases got : memory.cluster.get kind «namespace» name with error | object
      · trivial
      · exact fun known => kept.liesIn_of_get distinct known got
    | create kind «namespace» object => exact ⟨trivial, kept.create sends now «namespace» object⟩
    | update kind «namespace» object => exact ⟨trivial, kept.update sends.1 sends.2⟩
    | delete kind «namespace» name => exact ⟨trivial, kept.delete kind «namespace» name⟩
    | _ => exact ⟨trivial, kept⟩
  rejects kept _ := ⟨kept.own, kept.given, kept.single⟩

theorem Memory.versions_le_answerTo (memory : Memory) (now : Time.Instant) (waits : Bool) (c : Call) :
    memory.cluster.versions ≤ (memory.answerTo now waits c).2.cluster.versions := by
  cases c with
  | create kind «namespace» object =>
    exact (memory.cluster.follows_create now kind «namespace» object).versions
  | update kind «namespace» object =>
    rw [Memory.answerTo_update]
    rcases memory.cluster.update_cases kind «namespace» object with ⟨error, run⟩ | ⟨current, -, -, -, run⟩
    · exact (congrArg (·.2.versions) run).ge
    · exact (Nat.le_succ _).trans (congrArg (·.2.versions) run).ge
  | delete kind «namespace» name =>
    exact (memory.cluster.follows_delete kind «namespace» name).versions
  | _ => exact le_rfl

namespace Workload

/-- What can happen to a cluster that operations share: an object of one of the kinds is put in place, or it goes on
with the operations. -/
inductive Moves (kinds : List ResourceKind) : Workload → Workload → Prop where
  | seed {memory : Memory} {underway : List (Program Unit)} (kind : ResourceKind) (known : kind ∈ kinds)
    (object : Json) :
    Moves kinds ⟨memory, underway⟩ ⟨{ memory with cluster := memory.cluster.seed kind object }, underway⟩
  | operate {before after : Workload} (step : Workload.Step (OperatesOn kinds) before after) :
    Moves kinds before after

/-- The objects are in their places, and nothing that is underway takes one away from there. -/
abbrev InPlace (kinds : List ResourceKind) (workload : Workload) : Prop :=
  workload.Abides (.inPlace kinds) fun memory => memory.cluster.WellKept kinds

variable {before after : Workload}

theorem InPlace.moves (inPlace : before.InPlace kinds) (distinct : (kinds.map ResourceKind.plural).Nodup)
    (moves : Moves kinds before after) : after.InPlace kinds := by
  cases moves with
  | seed kind known object => exact ⟨inPlace.holds.seed known object, inPlace.honoured⟩
  | operate step => exact inPlace.step (Contract.keeps_inPlace distinct) (fun _ operates => operates.honours) step

theorem InPlace.of_path (inPlace : before.InPlace kinds) (distinct : (kinds.map ResourceKind.plural).Nodup)
    (path : Relation.ReflTransGen (Moves kinds) before after) : after.InPlace kinds := by
  induction path with
  | refl => exact inPlace
  | tail _ moves ih => exact ih.moves distinct moves

theorem versions_le_of_moves (moves : Moves kinds before after) :
    before.memory.cluster.versions ≤ after.memory.cluster.versions := by
  cases moves with
  | @seed memory underway kind known object =>
    obtain ⟨dated, -, run⟩ := memory.cluster.exists_seed_eq kind object
    exact (Nat.le_succ _).trans (congrArg Store.versions run).ge
  | operate step =>
    cases step with
    | begin _ _ => exact le_rfl
    | call _ now waits => exact Memory.versions_le_answerTo _ now waits _
    | reject _ => exact le_rfl

theorem versions_le_of_path (path : Relation.ReflTransGen (Moves kinds) before after) :
    before.memory.cluster.versions ≤ after.memory.cluster.versions := by
  induction path with
  | refl => exact le_rfl
  | tail _ moves ih => exact ih.trans (versions_le_of_moves moves)

/-- A program that has the memory to itself is one way in which the operations can go on. -/
theorem path_of_runs (kinds : List ResourceKind) {α : Type} {p : Program α} {now : Time.Instant}
    {memory left : Memory} {outcome : Outcome α} (run : p.Runs now memory outcome left) :
    ∃ ended, Relation.ReflTransGen (Moves kinds) ⟨memory, [p >>= fun _ => pure ()]⟩ ⟨left, [ended]⟩ := by
  induction run with
  | done outcome memory => exact ⟨_, .refl⟩
  | call waits _ ih =>
    obtain ⟨ended, path⟩ := ih
    exact ⟨ended, path.head (.operate (.call [] _ waits))⟩
  | reject kind _ ih =>
    obtain ⟨ended, path⟩ := ih
    exact ⟨ended, path.head (.operate (.reject kind))⟩

end Workload

namespace Cluster.Store

/-- The writes that a store takes, each with the object as it is then in place and the store after it. -/
inductive Writes (store : Store) : Json → Store → Prop where
  | seed {kind : ResourceKind} {object written : Json}
    (placed : (store.seed kind object).objects.get? (coordinates kind object) = some written) :
    Writes store written (store.seed kind object)
  | create {now : Time.Instant} {kind : ResourceKind} {«namespace» : String} {object written : Json} {after : Store}
    (made : store.create now kind «namespace» object = (.ok written, after)) : Writes store written after
  | update {kind : ResourceKind} {«namespace» : String} {object written : Json} {after : Store}
    (made : store.update kind «namespace» object = (.ok written, after)) : Writes store written after

theorem Writes.exists_write_eq {store after : Store} {placed : Json} (writes : store.Writes placed after) :
    ∃ key object, placed = store.written object ∧ after = (store.write key object).2 := by
  cases writes with
  | @seed kind object _ there =>
    obtain ⟨dated, -, run⟩ := store.exists_seed_eq kind object
    rw [run, write_objects, SortedMap.get?_insert_self] at there
    exact ⟨_, dated, (Option.some.inj there).symm, run⟩
  | @create now kind «namespace» object _ _ made =>
    rcases store.create_cases now kind «namespace» object with ⟨error, run⟩ | ⟨-, -, run⟩
    · cases run.symm.trans made
    · cases run.symm.trans made
      exact ⟨_, _, rfl, rfl⟩
  | @update kind «namespace» object _ _ made =>
    rcases store.update_cases kind «namespace» object with ⟨error, run⟩ | ⟨current, -, -, -, run⟩
    · cases run.symm.trans made
    · cases run.symm.trans made
      exact ⟨_, _, rfl, rfl⟩

end Cluster.Store

/-- What the cluster keeps to from when it was without objects, whatever is put in place and however the calls of
operations come one after the other. Every object is stored under its own name and, where its kind has namespaces,
its own namespace; so each object that is listed is the one that is got under them, and no two of a list share them.
Every object has the number of a write as its version, none of which two objects share; and a write that is taken
gives a number beyond all that were ever stored. -/
theorem objects_in_place (distinct : (kinds.map ResourceKind.plural).Nodup)
    {start earlier workload : Workload} (bare : start.memory.cluster.objects = .empty) (idle : start.underway = [])
    (past : Relation.ReflTransGen (Workload.Moves kinds) start earlier)
    (since : Relation.ReflTransGen (Workload.Moves kinds) earlier workload) :
    (∀ key object, workload.memory.cluster.objects.get? key = some object →
      ∃ kind ∈ kinds, key = Store.key kind (namespaceOf object) (nameOf object)) ∧
    (∀ kind ∈ kinds, ∀ home selector,
      (∀ object ∈ workload.memory.cluster.list kind home selector,
        workload.memory.cluster.get kind (namespaceOf object) (nameOf object) = .ok object) ∧
      ((workload.memory.cluster.list kind home selector).map fun object =>
        Store.key kind (namespaceOf object) (nameOf object)).Nodup) ∧
    (∀ key object, workload.memory.cluster.objects.get? key = some object →
      object.stringAt versionPath ≠ "" ∧
      (∃ n ≤ workload.memory.cluster.versions, object.stringAt versionPath = Text.decimal n) ∧
      ∀ other found, workload.memory.cluster.objects.get? other = some found →
        found.stringAt versionPath = object.stringAt versionPath → other = key) ∧
    ∀ written after, workload.memory.cluster.Writes written after →
      (∃ key, after.objects.get? key = some written) ∧
      ∃ n, written.stringAt versionPath = Text.decimal n ∧
        ∀ key object, earlier.memory.cluster.objects.get? key = some object →
          ∃ m < n, object.stringAt versionPath = Text.decimal m := by
  have begun : start.InPlace kinds := ⟨.of_empty kinds bare, idle ▸ List.forall_mem_nil _⟩
  have before := begun.of_path distinct past
  have kept := (before.of_path distinct since).holds
  refine ⟨kept.own, fun kind known home selector => ⟨fun object mem => kept.get_of_mem_list distinct known mem,
    kept.nodup_coordinates_list distinct known home selector⟩, fun key object stored => ?_,
    fun written after writes => ?_⟩
  · obtain ⟨n, -, atMost, stamped⟩ := kept.given key object stored
    refine ⟨stamped.version ▸ Text.decimal_ne_empty n, ⟨n, atMost, stamped.version⟩, fun other found there same => ?_⟩
    obtain ⟨m, -, -, stamped'⟩ := kept.given other found there
    have one : m = n := Text.decimal_injective (stamped'.version.symm.trans (same.trans stamped.version))
    exact kept.single other found key object n there stored (one ▸ stamped') stamped
  · obtain ⟨key, object, rfl, rfl⟩ := writes.exists_write_eq
    refine ⟨⟨key, SortedMap.get?_insert_self _ _ _⟩, workload.memory.cluster.versions + 1,
      (Store.stamped_written _ object).version, fun key old stored => ?_⟩
    obtain ⟨m, -, atMost, stamped⟩ := before.holds.given key old stored
    exact ⟨m, Nat.lt_succ_of_le (atMost.trans (Workload.versions_le_of_path since)), stamped.version⟩

/-- A composite that has its namespace as a parameter, beside a kustomization of its name. -/
def neighbours : Memory where
  cluster := (Store.empty.seed Flux.kustomizationKind
      (.ofPairs [("metadata", .ofPairs [("name", .string "web"), ("namespace", .string "flux-system")])])).seed
    Rehearsal.exampleComposite (.ofPairs [
      ("metadata", .ofPairs [("name", .string "web")]),
      ("spec", .ofPairs [("parameters", .ofPairs [("namespace", .string "prod")])])])
  releases := .empty

/-- An update of the composite that gives it another namespace as its parameter. -/
def restage : Action :=
  .updateDeployment "web" ⟨none, .ofList [("namespace", .string "staging")], .empty, .empty⟩

/-- What the update leaves. -/
def restaged : Memory :=
  ((restage.program ((Settings.crossplane Rehearsal.exampleComposite).operations ⟨1, 0⟩)).runInMemory ⟨1, 0⟩
    neighbours).2

/-- A composite that is told another namespace stays where it is, with a version beyond those that were there. -/
theorem objects_in_place_restaged :
    (Rehearsal.knownKinds.map ResourceKind.plural).Nodup ∧ ∃ ended,
      Relation.ReflTransGen (Workload.Moves Rehearsal.knownKinds) ⟨.empty, []⟩ ⟨neighbours, []⟩ ∧
      Relation.ReflTransGen (Workload.Moves Rehearsal.knownKinds) ⟨neighbours, []⟩ ⟨restaged, [ended]⟩ ∧
      (restaged.cluster.list Rehearsal.exampleComposite none none).map (fun object =>
        (namespaceOf object, nameOf object, object.stringAt versionPath,
          object.stringAt ["spec", "parameters", "namespace"])) = [("", "web", "3", "staging")] ∧
      ∀ object ∈ restaged.cluster.list Rehearsal.exampleComposite none none,
        restaged.cluster.get Rehearsal.exampleComposite (namespaceOf object) (nameOf object) = .ok object := by
  have distinct : (Rehearsal.knownKinds.map ResourceKind.plural).Nodup := by decide
  have past : Relation.ReflTransGen (Workload.Moves Rehearsal.knownKinds) ⟨.empty, []⟩ ⟨neighbours, []⟩ :=
    (Relation.ReflTransGen.single (.seed _ (by decide) _)).tail (.seed _ (by decide) _)
  obtain ⟨ended, path⟩ := Workload.path_of_runs Rehearsal.knownKinds <| Program.runs_runInMemory
    (restage.program ((Settings.crossplane Rehearsal.exampleComposite).operations ⟨1, 0⟩)) neighbours
  have since := path.head <| .operate <| .begin _ <|
    .action (.crossplane Rehearsal.exampleComposite) (by simp [Settings.kind]) (by decide) ⟨1, 0⟩ restage
  have listed := (objects_in_place distinct rfl rfl past since).2.1 Rehearsal.exampleComposite (by decide) none none
  exact ⟨distinct, ended, past, since, by decide +kernel, listed.1⟩

end DeploymentGateway
