import DeploymentGateway.Proofs.Flux.Rollback
import DeploymentGateway.Proofs.Flux.Source
import DeploymentGateway.Proofs.Rewrite.LostUpdate
/-!
A rollback of a kustomization among others of the same kustomization. Between two of its calls the others
may write the kustomization and its repository, so what is known of it is how far it has come and which
commit it has replaced. One law tells all that its next call can do.
-/

set_option autoImplicit false

namespace DeploymentGateway.Flux.OnCluster

open Cluster

/-! The parts of a rollback, each from one call on. -/

section

variable (home : String) (now : Time.Instant)

/-- Give a repository that was read again its reference back, and fail. -/
def giveBack (failure : Failure) (source : SourceRef) (before : Option Json) (repository : Json) :
    Program Deployment :=
  .call (.update gitRepositoryKind source.namespace (repaired now repository before)) fun _ =>
    .fail failure

def reread (failure : Failure) (source : SourceRef) (before : Option Json) : Program Deployment :=
  .call (.get gitRepositoryKind source.namespace source.name) fun
    | .ok repository => giveBack now failure source before repository
    | .error _ => .fail failure

/-- Undo a pin, and fail. -/
def undo (failure : Failure) (source : SourceRef) (before : Option Json) : Program Deployment :=
  .call (.connect .cluster) fun
    | .ok _ => reread now failure source before
    | .error _ => .fail failure

/-- Write a kustomization after its repository was pinned. -/
def confirm (source : SourceRef) (object : Json) (before : Option Json) : Program Deployment :=
  .call (.update kustomizationKind home (requestReconcile now object)) fun
    | .ok updated => .done (.ok (toDeployment now .kustomization updated))
    | .error error =>
      undo now (deploymentFailure backend "rollback"
        (deploymentId .kustomization (nameOf (requestReconcile now object))) error) source before

/-- Pin a repository that was read. -/
def placePin (source : SourceRef) (object : Json) (commit : String) (repository : Json) :
    Program Deployment :=
  .call (.update gitRepositoryKind source.namespace (pinned now repository commit)) fun
    | .ok _ => settle home now object ⟨source.namespace, source.name, repository.lookup refPath⟩
    | .error error => .fail (.failed backend "rollback" source.name (.cluster error))

def readSource (source : SourceRef) (object : Json) (commit : String) : Program Deployment :=
  .call (.get gitRepositoryKind source.namespace source.name) fun
    | .ok repository => placePin home now source object commit repository
    | .error error => .fail (.failed backend "rollback" source.name (.cluster error))

/-- The pin of a kustomization that was found, and all that follows. -/
def startPin (source : SourceRef) (object : Json) (commit : String) : Program Deployment :=
  .call (.connect .cluster) fun
    | .ok _ => readSource home now source object commit
    | .error failure => .fail failure

theorem settle_eq (source : SourceRef) (object : Json) (before : Option Json) :
    settle home now object ⟨source.namespace, source.name, before⟩ =
      .call (.connect .cluster) fun
        | .ok _ => confirm home now source object before
        | .error failure => undo now failure source before := by
  have undone (failure : Failure) :
      ((restoreSource now ⟨source.namespace, source.name, before⟩).attempt >>= fun _ =>
        Program.fail failure : Program Deployment) = undo now failure source before := by
    refine congrArg (Program.call _) (funext fun reply => ?_)
    rcases reply with _ | ⟨⟩
    · rfl
    refine congrArg (Program.call _) (funext fun reply => ?_)
    rcases reply with _ | repository
    · rfl
    rcases before with _ | reference
    · refine congrArg (Program.call _) (funext fun reply => ?_)
      rcases reply with _ | updated <;> rfl
    · refine congrArg (Program.call _) (funext fun reply => ?_)
      rcases reply with _ | updated <;> rfl
  refine congrArg (Program.call _) (funext fun reply => ?_)
  rcases reply with failure | ⟨⟩
  · exact undone failure
  refine congrArg (Program.call _) (funext fun reply => ?_)
  rcases reply with error | updated
  · exact undone _
  · rfl

/-- A rollback of a kustomization that was found fails at once, or it begins to pin the repository to the
commit that was applied last. -/
theorem rollbackKustomization_fails_or_pins (id : String) (revision : Int64) (object : Json) :
    (∃ failure, Operation.rollbackKustomization now home id revision object =
        .done (.error failure)) ∨
      ∃ commit, commitOf (object.stringAt ["status", "lastAppliedRevision"]) = some commit ∧
        Operation.rollbackKustomization now home id revision object =
          startPin home now (sourceRef .kustomization object) object commit := by
  rw [rollbackKustomization_eq]
  split
  · exact .inl ⟨_, rfl⟩
  split
  · rcases named : commitOf (object.stringAt ["status", "lastAppliedRevision"]) with _ | commit
    · simp [pinSource, named]
    by_cases source : (sourceRef .kustomization object).kind = gitRepositoryKind.kind
    · refine .inr ⟨commit, rfl, ?_⟩
      simp only [pinSource, named, source, bne_self_eq_false]
      refine congrArg (Program.call _) (funext fun reply => ?_)
      rcases reply with _ | ⟨⟩
      · rfl
      refine congrArg (Program.call _) (funext fun reply => ?_)
      rcases reply with _ | repository
      · rfl
      refine congrArg (Program.call _) (funext fun reply => ?_)
      rcases reply with _ | updated <;> rfl
    · simp [pinSource, named, source]
  · exact .inl ⟨_, rfl⟩

end

/-- A rollback that was asked for. -/
structure Rollback where
  id : String
  revision : Int64
  now : Time.Instant

/-- What a rollback has done to the repository so far: nothing, a pin that has replaced some commit, or a
pin and its repair. -/
inductive Mark where
  | fresh
  | pinned (before : Option Json)
  | repaired

/-- The commit of a reference, if it has one. -/
def commitIn (reference : Option Json) : Option Json :=
  reference.bind fun reference => reference.lookup ["commit"]

/-- The commit that the repository of a kustomization is to be taken from. -/
def commit? (object : Json) (store : Store) : Option Json :=
  commitIn (ref? object store)

/-- A kustomization is in place that has the name, the source and the last revision of a given one. -/
def InPlace (home : String) (object : Json) (store : Store) : Prop :=
  ∃ current, store.object? kustomizationKind home (nameOf object) = some current ∧
    Alike current object

/-- A kustomization that goes back to the commit of a given one. -/
structure Suits (object : Json) (commit : String) (current : Json) : Prop where
  alike : Alike current object
  named : commitOf (object.stringAt ["status", "lastAppliedRevision"]) = some commit

namespace Rollback

def task (home : String) (rollback : Rollback) : Task :=
  ⟨.fluxRollback home rollback.id rollback.revision, rollback.now⟩

/-- The id of a rollback means a given kustomization, as long as that is there. -/
def Means (rollback : Rollback) (object : Json) : Prop :=
  ∃ kind, parseId rollback.id = .ok (kind, nameOf object) ∧ kind ≠ some .helmRelease

/-- How far a rollback can be, and what it has done to the repository. -/
inductive Stage (home : String) (object : Json) (commit : String) (rollback : Rollback)
    (store : Store) : Mark → Program Deployment → Prop where
  | asked : Stage home object commit rollback store .fresh (rollback.task home).search.program
  | connecting {places : List Place} (listed : (rollback.task home).search.places = .ok places) :
    Stage home object commit rollback store .fresh
      (.connect .cluster >>= fun _ => (rollback.task home).search.seek places)
  | seeking {places : List Place} (listed : (rollback.task home).search.places = .ok places) :
    Stage home object commit rollback store .fresh ((rollback.task home).search.seek places)
  | resolved {current : Json} (suits : Suits object commit current) :
    Stage home object commit rollback store .fresh
      (startPin home rollback.now (sourceRef .kustomization object) current commit)
  | reading {current : Json} (suits : Suits object commit current) :
    Stage home object commit rollback store .fresh
      (readSource home rollback.now (sourceRef .kustomization object) current commit)
  | pinning {current repository : Json} {n : Nat} (suits : Suits object commit current)
    (held : Store.Held store (repositoryKey object) repository n) :
    Stage home object commit rollback store .fresh
      (placePin home rollback.now (sourceRef .kustomization object) current commit repository)
  | settling {current : Json} (suits : Suits object commit current) (before : Option Json) :
    Stage home object commit rollback store (.pinned (commitIn before))
      (settle home rollback.now current
        ⟨(sourceRef .kustomization object).namespace, (sourceRef .kustomization object).name, before⟩)
  | confirming {current : Json} (suits : Suits object commit current) (before : Option Json) :
    Stage home object commit rollback store (.pinned (commitIn before))
      (confirm home rollback.now (sourceRef .kustomization object) current before)
  | undoing (failure : Failure) (before : Option Json) :
    Stage home object commit rollback store (.pinned (commitIn before))
      (undo rollback.now failure (sourceRef .kustomization object) before)
  | rereading (failure : Failure) (before : Option Json) :
    Stage home object commit rollback store (.pinned (commitIn before))
      (reread rollback.now failure (sourceRef .kustomization object) before)
  | restoring {repository : Json} {n : Nat} (failure : Failure) (before : Option Json)
    (held : Store.Held store (repositoryKey object) repository n) :
    Stage home object commit rollback store (.pinned (commitIn before))
      (giveBack rollback.now failure (sourceRef .kustomization object) before repository)
  | succeeded {current : Json} (suits : Suits object commit current) (before : Option Json)
    (deployment : Deployment) :
    Stage home object commit rollback store (.pinned before) (.done (.ok deployment))
  | failed (mark : Mark) (failure : Failure) :
    Stage home object commit rollback store mark (.done (.error failure))

/-- All that one call of a rollback can do to the store: nothing, the write of the kustomization, the pin
of its repository, or the repair of that. The last two are the calls that replace the repository. -/
inductive Effect (home : String) (object : Json) (commit : String) (store : Store) :
    Mark → Bool → Mark → Store → Prop where
  | idle (mark : Mark) : Effect home object commit store mark false mark store
  | confirm {new : Json} (mark : Mark) (alike : Alike new object) :
    Effect home object commit store mark false mark
      (store.write (Store.key kustomizationKind home (nameOf object)) new).2
  | pin {new : Json} (commits : commitIn (new.lookup refPath) = some (.string commit)) :
    Effect home object commit store .fresh true (.pinned (commit? object store))
      (store.write (repositoryKey object) new).2
  | repair {new : Json} {before : Option Json} (restores : commitIn (new.lookup refPath) = before) :
    Effect home object commit store (.pinned before) true .repaired
      (store.write (repositoryKey object) new).2

variable {home commit : String} {object : Json} {rollback : Rollback} {store after : Store}
  {mark mark' : Mark} {program : Program Deployment}

/-- What others write leaves a rollback where it is. -/
theorem Stage.follows {target : ObjectKey}
    (stage : rollback.Stage home object commit store mark program)
    (h : Store.Follows target store after) :
    rollback.Stage home object commit after mark program := by
  cases stage with
  | asked => exact .asked
  | connecting listed => exact .connecting listed
  | seeking listed => exact .seeking listed
  | resolved suits => exact .resolved suits
  | reading suits => exact .reading suits
  | pinning suits held => exact .pinning suits (held.follows h)
  | settling suits before => exact .settling suits before
  | confirming suits before => exact .confirming suits before
  | undoing failure before => exact .undoing failure before
  | rereading failure before => exact .rereading failure before
  | restoring failure before held => exact .restoring failure before (held.follows h)
  | succeeded suits before deployment => exact .succeeded suits before deployment
  | failed mark failure => exact .failed mark failure

theorem Effect.follows {commits : Bool}
    (effect : Effect home object commit store mark commits mark' after) :
    ∃ target, Store.Follows target store after := by
  cases effect with
  | idle mark => exact ⟨repositoryKey object, Store.Follows.refl _ store⟩
  | confirm mark alike => exact ⟨_, Store.follows_write _ fun away => absurd rfl away⟩
  | pin commits => exact ⟨_, Store.follows_write _ fun away => absurd rfl away⟩
  | repair restores => exact ⟨_, Store.follows_write _ fun away => absurd rfl away⟩

/-! What the next call does. -/

private theorem advance_update (now : Time.Instant) (waits : Bool) (kind : ResourceKind)
    («namespace» : String) (changed : Json) (next : Except ClusterError Json → Program Deployment)
    (memory : Memory) :
    (Program.call (.update kind «namespace» changed) next).advance now waits memory =
      (next (memory.cluster.update kind «namespace» changed).1,
        { memory with cluster := (memory.cluster.update kind «namespace» changed).2 }) :=
  rfl

/-- The next call of a rollback has one of the effects, and leaves it somewhere. -/
def Advances (home : String) (object : Json) (commit : String) (rollback : Rollback)
    (now : Time.Instant) (waits : Bool) (mark : Mark) (program : Program Deployment)
    (memory : Memory) : Prop :=
  ∃ mark',
    Effect home object commit memory.cluster mark
      (program.commits (repositoryKey object) memory.cluster) mark'
      (program.advance now waits memory).2.cluster ∧
    rollback.Stage home object commit (program.advance now waits memory).2.cluster mark'
      (program.advance now waits memory).1

variable {now : Time.Instant} {waits : Bool} {memory : Memory}

theorem advances_idle {next : Program Deployment}
    (idles : program.advance now waits memory = (next, memory))
    (commits : program.commits (repositoryKey object) memory.cluster = false)
    (stage : rollback.Stage home object commit memory.cluster mark next) :
    Advances home object commit rollback now waits mark program memory := by
  refine ⟨mark, ?_, ?_⟩
  · rw [idles, commits]
    exact .idle mark
  · rw [idles]
    exact stage

private theorem advances_connect {next : Outcome Unit → Program Deployment}
    (cancelled : rollback.Stage home object commit memory.cluster mark (next (.error .cancelled)))
    (goes : rollback.Stage home object commit memory.cluster mark (next (.ok ()))) :
    Advances home object commit rollback now waits mark
      (.call (.connect .cluster) next) memory := by
  cases waits with
  | false => exact advances_idle rfl rfl cancelled
  | true => exact advances_idle rfl rfl goes

private theorem advances_get {next : Except ClusterError Json → Program Deployment}
    (reachable : memory.cluster.Reachable)
    (absent : ∀ error, rollback.Stage home object commit memory.cluster mark (next (.error error)))
    (present : ∀ repository n, Store.Held memory.cluster (repositoryKey object) repository n →
      rollback.Stage home object commit memory.cluster mark (next (.ok repository))) :
    Advances home object commit rollback now waits mark
      (.call (.get gitRepositoryKind (sourceRef .kustomization object).namespace
        (sourceRef .kustomization object).name) next) memory := by
  have idles : (Program.call (.get gitRepositoryKind (sourceRef .kustomization object).namespace
      (sourceRef .kustomization object).name) next).advance now waits memory =
        (next (memory.cluster.get gitRepositoryKind (sourceRef .kustomization object).namespace
          (sourceRef .kustomization object).name), memory) := rfl
  refine advances_idle idles rfl ?_
  rcases found : memory.cluster.object? gitRepositoryKind
    (sourceRef .kustomization object).namespace (sourceRef .kustomization object).name with
    _ | repository
  · rw [Store.get, found]
    exact absent _
  · rw [Store.get, found]
    obtain ⟨n, held⟩ := reachable.sound.held_of_named found (reachable.nameOf_eq found)
    exact present repository n held

private theorem advances_update {next : Except ClusterError Json → Program Deployment}
    {repository changed : Json} {n : Nat}
    (held : Store.Held memory.cluster (repositoryKey object) repository n)
    (named : nameOf changed = nameOf repository)
    (version : changed.stringAt versionPath = repository.stringAt versionPath)
    (reachable : memory.cluster.Reachable)
    (refused : ∀ error, rollback.Stage home object commit memory.cluster mark
      (next (.error error)))
    (effect : memory.cluster.objects.get? (repositoryKey object) = some repository →
      Effect home object commit memory.cluster mark true mark'
        (memory.cluster.write (repositoryKey object) (Store.succeeding repository changed)).2)
    (goes : ∀ updated, rollback.Stage home object commit
      (memory.cluster.write (repositoryKey object) (Store.succeeding repository changed)).2 mark'
        (next (.ok updated))) :
    Advances home object commit rollback now waits mark
      (.call (.update gitRepositoryKind (sourceRef .kustomization object).namespace changed) next)
      memory := by
  have ownName : nameOf changed = (sourceRef .kustomization object).name := named.trans held.named
  have advance := advance_update now waits gitRepositoryKind
    (sourceRef .kustomization object).namespace changed next memory
  have commits : (Program.call (.update gitRepositoryKind
      (sourceRef .kustomization object).namespace changed) next).commits (repositoryKey object)
        memory.cluster = (memory.cluster.update gitRepositoryKind
          (sourceRef .kustomization object).namespace changed).1.isOk := by
    change (decide (Store.key _ _ (nameOf changed) = repositoryKey object) && _) = _
    rw [ownName]
    exact Bool.and_eq_right_iff_imp.mpr fun _ => decide_eq_true rfl
  -- Either another write came first, or just what was read is replaced.
  rcases held.update_cases_of_version ownName version reachable.sound with
    ⟨error, run⟩ | ⟨stored, -, run⟩
  · rw [run] at advance commits
    exact advances_idle advance commits (refused error)
  · rw [run] at advance commits
    refine ⟨mark', ?_, ?_⟩
    · rw [advance, commits]
      exact effect stored
    · rw [advance]
      exact goes _

theorem commit?_of_stored {repository : Json}
    (stored : store.objects.get? (repositoryKey object) = some repository) :
    commit? object store = commitIn (repository.lookup refPath) := by
  rw [commit?, ref?, stored]
  rfl

private theorem lookup_ref_succeeding (current changed : Json) :
    (Store.succeeding current changed).lookup refPath = changed.lookup refPath :=
  Json.lookup_set_of_names (by simp) (by decide) _ _

private theorem commitIn_pinned (now : Time.Instant) (repository : Json) (commit : String) :
    commitIn ((pinned now repository commit).lookup refPath) = some (.string commit) := by
  have names : ∀ segment ∈ ["spec", "ref", "commit"],
      Text.readNatural? Json.greatestIndex segment = none := by decide
  have whole : commitIn ((pinned now repository commit).lookup refPath) =
      (pinned now repository commit).lookup (refPath ++ ["commit"]) :=
    (Json.lookup_append _ _ _).symm
  have path : refPath ++ ["commit"] = ["spec", "ref", "commit"] := rfl
  rw [whole, pinned, requestReconcile, path,
    Json.lookup_set_of_names (by simp [requestedAt]) names, Json.lookup_set_self]

private theorem advances_placePin {current repository : Json} {n : Nat}
    (suits : Suits object commit current)
    (held : Store.Held memory.cluster (repositoryKey object) repository n)
    (reachable : memory.cluster.Reachable) :
    Advances home object commit rollback now waits .fresh
      (placePin home rollback.now (sourceRef .kustomization object) current commit repository)
      memory := by
  refine advances_update held (nameOf_pinned _ _ _) (version_pinned _ _ _) reachable
    (fun error => .failed _ _) (fun stored => ?_) fun updated => .settling suits _
  rw [← commit?_of_stored stored]
  refine .pin ?_
  rw [lookup_ref_succeeding]
  exact commitIn_pinned _ _ _

private theorem advances_giveBack {repository : Json} {n : Nat} (failure : Failure)
    (before : Option Json) (held : Store.Held memory.cluster (repositoryKey object) repository n)
    (reachable : memory.cluster.Reachable) :
    Advances home object commit rollback now waits (.pinned (commitIn before))
      (giveBack rollback.now failure (sourceRef .kustomization object) before repository)
      memory := by
  refine advances_update held (nameOf_repaired _ _ _) (version_repaired _ _ _) reachable
    (fun error => .failed _ _) (fun stored => .repair ?_) fun updated => .failed _ _
  rw [lookup_ref_succeeding, lookup_ref_repaired]

private theorem advances_confirm {current : Json} (suits : Suits object commit current)
    (before : Option Json) :
    Advances home object commit rollback now waits (.pinned (commitIn before))
      (confirm home rollback.now (sourceRef .kustomization object) current before) memory := by
  have sent : Alike (requestReconcile rollback.now current) object :=
    (alike_requestReconcile _ _).trans suits.alike
  have commits : (confirm home rollback.now (sourceRef .kustomization object) current
      before).commits (repositoryKey object) memory.cluster = false := by
    have apart : Store.key kustomizationKind home (nameOf (requestReconcile rollback.now current)) ≠
        repositoryKey object := Store.key_ne_of_plural (by decide) _ _ _ _
    rw [confirm, Program.commits, decide_eq_false apart, Bool.false_and]
  rcases memory.cluster.update_cases kustomizationKind home
      (requestReconcile rollback.now current) with
    ⟨error, run⟩ | ⟨found, -, -, -, run⟩
  · obtain ⟨failure, fails⟩ : ∃ failure,
        (confirm home rollback.now (sourceRef .kustomization object) current before).advance now waits
          memory = (undo rollback.now failure (sourceRef .kustomization object) before, memory) :=
      ⟨_, by rw [confirm, advance_update, run]⟩
    exact advances_idle fails commits (.undoing failure before)
  · rw [sent.nameOf] at run
    obtain ⟨deployment, advance⟩ : ∃ deployment,
        (confirm home rollback.now (sourceRef .kustomization object) current before).advance now waits
          memory = (.done (.ok deployment), { memory with cluster :=
            (memory.cluster.write (Store.key kustomizationKind home (nameOf object))
              (Store.succeeding found (requestReconcile rollback.now current))).2 }) :=
      ⟨_, by rw [confirm, advance_update, run]⟩
    refine ⟨.pinned (commitIn before), ?_, ?_⟩
    · rw [advance, commits]
      exact .confirm _ ((alike_succeeding _ _).trans sent)
    · rw [advance]
      exact .succeeded suits _ _

private theorem advances_seek {places : List Place} (means : rollback.Means object)
    (inPlace : InPlace home object memory.cluster)
    (last : ∀ other, commitOf (object.stringAt ["status", "lastAppliedRevision"]) = some other →
      other = commit)
    (listed : (rollback.task home).search.places = .ok places) :
    Advances home object commit rollback now waits .fresh
      ((rollback.task home).search.seek places) memory := by
  obtain ⟨kind, parsed, notHelm⟩ := means
  obtain ⟨current, stored, alike⟩ := inPlace
  obtain ⟨-, kind', name, -, parsed', rfl⟩ := fluxSearch_places home listed
  obtain ⟨rfl, rfl⟩ : kind = kind' ∧ nameOf object = name := by
    rw [parsed] at parsed'
    cases parsed'
    exact ⟨rfl, rfl⟩
  -- Whether or not the id tells the kind, kustomizations are looked at first.
  obtain ⟨others, first⟩ : ∃ others, fluxKinds kind = .kustomization :: others := by
    rcases kind with _ | _ | _
    · exact ⟨_, rfl⟩
    · exact ⟨_, rfl⟩
    · exact absurd rfl notHelm
  rw [first, List.map_cons]
  refine advances_idle (Search.advance_seek_of_stored _ _ now waits stored) rfl ?_
  change rollback.Stage home object commit memory.cluster .fresh
    (Operation.rollbackKustomization rollback.now home rollback.id rollback.revision current)
  rcases rollbackKustomization_fails_or_pins home rollback.now rollback.id rollback.revision
      current with ⟨failure, fails⟩ | ⟨commit', named, pins⟩
  · rw [fails]
    exact .failed _ _
  · have revision : current.stringAt ["status", "lastAppliedRevision"] =
        object.stringAt ["status", "lastAppliedRevision"] := alike.stringAt (by simp [originPaths])
    rw [revision] at named
    obtain rfl := last commit' named
    rw [pins, alike.sourceRef]
    exact .resolved ⟨alike, named⟩

/-- All that the next call of a rollback can do. -/
theorem Stage.advances (stage : rollback.Stage home object commit memory.cluster mark program)
    (now : Time.Instant) (waits : Bool) (reachable : memory.cluster.Reachable)
    (means : rollback.Means object) (inPlace : InPlace home object memory.cluster)
    (last : ∀ other, commitOf (object.stringAt ["status", "lastAppliedRevision"]) = some other →
      other = commit) :
    Advances home object commit rollback now waits mark program memory := by
  cases stage with
  | asked =>
    cases waits with
    | false => exact advances_idle rfl rfl (.failed _ _)
    | true =>
      have idles : (rollback.task home).search.program.advance now true memory =
          (do
            let places ← Program.ofOutcome (rollback.task home).search.places
            Program.connect .cluster
            (rollback.task home).search.seek places, memory) := rfl
      rcases listed : (rollback.task home).search.places with failure | places
      · rw [listed] at idles
        exact advances_idle idles rfl (.failed _ failure)
      · rw [listed] at idles
        exact advances_idle idles rfl (.connecting listed)
  | connecting listed => exact advances_connect (.failed _ _) (.seeking listed)
  | seeking listed => exact advances_seek means inPlace last listed
  | resolved suits => exact advances_connect (.failed _ _) (.reading suits)
  | reading suits =>
    exact advances_get reachable (fun error => .failed _ _) fun repository n held =>
      .pinning suits held
  | pinning suits held => exact advances_placePin suits held reachable
  | settling suits before =>
    rw [settle_eq]
    exact advances_connect (.undoing _ before) (.confirming suits before)
  | confirming suits before => exact advances_confirm suits before
  | undoing failure before =>
    exact advances_connect (.failed _ failure) (.rereading failure before)
  | rereading failure before =>
    exact advances_get reachable (fun error => .failed _ failure) fun repository n held =>
      .restoring failure before held
  | restoring failure before held => exact advances_giveBack failure before held reachable
  | succeeded suits before deployment =>
    exact advances_idle rfl rfl (.succeeded suits before deployment)
  | failed mark failure => exact advances_idle rfl rfl (.failed mark failure)

/-- A rollback that has ended well has pinned the repository and has not repaired it. -/
theorem Stage.pinned_of_succeeded {deployment : Deployment}
    (stage : rollback.Stage home object commit store mark (.done (.ok deployment))) :
    commitOf (object.stringAt ["status", "lastAppliedRevision"]) = some commit ∧
      ∃ before, mark = .pinned before := by
  generalize ended : (Program.done (.ok deployment) : Program Deployment) = program at stage
  cases stage with
  | succeeded suits before _ => exact ⟨suits.named, before, rfl⟩
  | failed mark failure => cases ended
  | seeking listed => exact absurd ended.symm (Search.seek_ne_done _ _ _)
  | _ => cases ended

end Rollback

end DeploymentGateway.Flux.OnCluster
