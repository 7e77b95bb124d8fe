import DeploymentGateway.Proofs.Listing
import DeploymentGateway.Proofs.Release.Filing
import DeploymentGateway.Proofs.Release.Run
import DeploymentGateway.Proofs.Rules
/-!
Which releases an id finds. The id of a release is its name, and a name that is used in two namespaces is
refused. So a new release can be found, and hides no other one, just if its name was free everywhere.
-/

set_option autoImplicit false

namespace DeploymentGateway.Release

open Cluster Rules

/-- The releases as the gateway keeps them: filed, and each revision with the time of its making. -/
structure Dated (store : Store) : Prop extends Store.Filed store where
  dated : ∀ home name history, store.history? home name = some history →
    ∀ revision ∈ history, revision.lastDeployed.isSome

/-! What the calls to the manager keep. -/

namespace Dated

variable {store : Store}

theorem empty : Dated .empty :=
  ⟨⟨nofun, nofun⟩, nofun⟩

variable (h : Dated store)

include h

theorem push {next : ReleaseRevision} (timed : next.lastDeployed.isSome) :
    Dated (store.push next).2 where
  toFiled := h.toFiled.push next
  dated home name history found revision mem := by
    rcases Store.mem_push_cases found mem with
      ⟨earlier, before, older, among, rfl | rfl⟩ | ⟨rfl, rfl, rfl⟩
    · exact h.dated home name earlier before revision among
    · have unchanged : (Store.supersede older).lastDeployed = older.lastDeployed := by
        unfold Store.supersede
        split <;> rfl
      rw [unchanged]
      exact h.dated home name earlier before older among
    · exact timed

theorem install (now : Time.Instant) (request : InstallRequest) :
    Dated (store.install now request).2 := by
  unfold Store.install
  split
  · exact h
  · exact h.push rfl

theorem upgrade (now : Time.Instant) (request : UpgradeRequest) :
    Dated (store.upgrade now request).2 := by
  unfold Store.upgrade
  split
  · exact h
  · exact h.push rfl

theorem uninstall (home name : String) : Dated (store.uninstall home name).2 := by
  rcases found : store.history? home name with _ | history
  · rw [store.uninstall_of_none found]
    exact h
  · rw [Store.uninstall_of_some _ found]
    have left (home' name' : String) (history : List ReleaseRevision)
        (left : Store.history? ⟨store.releases.erase ⟨home, name⟩⟩ home' name' = some history) :
        store.history? home' name' = some history :=
      SortedMap.get?_of_get?_erase left
    exact ⟨⟨fun home' name' history found => h.nonempty home' name' history (left _ _ _ found),
      fun home' name' history found => h.own home' name' history (left _ _ _ found)⟩,
      fun home' name' history found => h.dated home' name' history (left _ _ _ found)⟩

theorem rollback (home name : String) (revision : Int64) :
    Dated (store.rollback home name revision).2 := by
  rcases store.rollback_cases home name revision with ⟨error, run⟩ | ⟨target, mem, run⟩
  · rw [run]
    exact h
  · rw [run]
    rcases found : store.history? home name with _ | history
    · rw [found] at mem
      cases mem
    · rw [found] at mem
      exact h.push (h.dated home name history found target mem)

end Dated

theorem dated_answerTo (now : Time.Instant) (waits : Bool) (c : Call) (memory : Memory)
    (h : Dated memory.releases) : Dated (memory.answerTo now waits c).2.releases := by
  cases c with
  | install request => exact h.install now request
  | upgrade request => exact h.upgrade now request
  | uninstall «namespace» name => exact h.uninstall «namespace» name
  | rollback «namespace» name revision => exact h.rollback «namespace» name revision
  | _ => exact h

/-- Whatever the gateway does, the releases stay filed and dated. -/
theorem dated_of_reached {operations : Time.Instant → Operations} {memory : Memory}
    (reached : Reached operations memory) : Dated memory.releases := by
  induction reached with
  | empty => exact .empty
  | run now action _ run h =>
    exact run.keeps (fun memory => Dated memory.releases) (dated_answerTo now) (fun _ _ kept => kept) h

namespace OnManager

/-! What is found for an id. -/

section

variable {now : Time.Instant} {memory : Memory} {id : String}

/-- What is found for an id is the last revision of the one release of that name. -/
theorem getDeployment_of_namespaces {home : String} {last : ReleaseRevision}
    (checked : checkName "id" id = .ok ()) (listed : memory.releases.namespaces id = [home])
    (latest : memory.releases.latest? home id = some last) :
    (getDeployment now id).runInMemory now memory = (.ok (toDeployment now last), memory) := by
  rw [Store.namespaces] at listed
  simp [getDeployment, current, locate, checked, listed, Store.status, latest]

/-- A name that is used in several namespaces is refused. -/
theorem getDeployment_of_ambiguous {first second : String} {rest : List String}
    (checked : checkName "id" id = .ok ())
    (listed : memory.releases.namespaces id = first :: second :: rest) :
    (getDeployment now id).runInMemory now memory =
      (.error (.invalid "id" ("release " ++ id ++ " exists in namespaces " ++
        Text.joinWith ", " (first :: second :: rest))), memory) := by
  rw [Store.namespaces] at listed
  simp [getDeployment, current, locate, checked, listed]

/-- What is found for an id is in the one namespace that has the name. -/
theorem namespaces_of_getDeployment {deployment : Deployment}
    (found : (getDeployment now id).runInMemory now memory = (.ok deployment, memory)) :
    checkName "id" id = .ok () ∧ ∃ home last, memory.releases.namespaces id = [home] ∧
      memory.releases.latest? home id = some last ∧ deployment = toDeployment now last := by
  rcases checked : checkName "id" id with failure | ⟨⟩
  · simp [getDeployment, current, locate, checked] at found
  refine ⟨rfl, ?_⟩
  rcases listed : memory.releases.namespaces id with _ | ⟨home, _ | ⟨other, rest⟩⟩
  · rw [Store.namespaces] at listed
    simp [getDeployment, current, locate, checked, listed] at found
  · rcases latest : memory.releases.latest? home id with _ | last
    · rw [Store.namespaces] at listed
      simp [getDeployment, current, locate, checked, listed, Store.status, latest] at found
    · rw [getDeployment_of_namespaces checked listed latest] at found
      cases found
      exact ⟨home, last, rfl, latest, rfl⟩
  · rw [getDeployment_of_ambiguous checked listed] at found
    cases found

/-- The deployments that are listed have distinct ids just if no name is used in two namespaces. -/
theorem nodup_listDeployments (h : Dated memory.releases) (now : Time.Instant) :
    ∃ listed, (listDeployments now .everything).runInMemory now memory = (.ok listed, memory) ∧
      ((listed.map Deployment.id).Nodup ↔ memory.releases.Unambiguous) := by
  let deployments := (memory.releases.list none).map (toDeployment now)
  refine ⟨Listing.finishDeployments deployments .everything true, rfl, ?_⟩
  have ids : deployments.map Deployment.id =
      (memory.releases.list none).map fun revision => revision.name := by
    rw [List.map_map]
    rfl
  have same := List.mergeSort_perm deployments Listing.deploymentNotAfter
  rw [Listing.finishDeployments_everything, (same.map Deployment.id).nodup_iff, ids]
  exact h.nodup_names_iff

end

/-! What a new release does to the others. -/

section

variable {now : Time.Instant} {store : Store}

/-- A new release is the first revision of a name that was free in its namespace. -/
theorem ensures_createDeployment (request : DeploymentRequest) :
    (createDeployment now request).Ensures .releases now store fun outcome after =>
      ∀ deployment, outcome = .ok deployment → checkName "name" request.name = .ok () ∧
        ∃ install : InstallRequest, install.name = request.name ∧
          install.namespace = request.namespace ∧
          store.latest? request.namespace request.name = none ∧
          after = (store.push (Store.installed now install)).2 ∧
          deployment = toDeployment now (store.push (Store.installed now install)).1 := by
  refine .checkpoint nofun ?_
  refine .check (fun _ _ => nofun) fun _ named => ?_
  refine .check (fun _ _ => nofun) fun _ _ => ?_
  refine .check (fun _ _ => nofun) fun version _ => ?_
  refine .check (fun _ _ => nofun) fun repo _ => ?_
  refine ((readOnly_requestedSource request version repo).ensures store).bind ?_ fun _ _ _ => nofun
  rintro ⟨source, version⟩ _ rfl
  refine .connect nofun ?_
  refine .install ?_
  -- The name is in use, and nothing happens, or the first revision is made.
  unfold Store.install
  split
  · exact .done nofun
  · rename_i free
    refine (ensures_remember _ source).bind ?_ fun _ _ ended => nomatch ended.1
    rintro ⟨⟩ _ ⟨-, rfl⟩
    refine .done ?_
    rintro deployment ⟨⟩
    exact ⟨named, _, rfl, rfl, free, rfl, rfl⟩

/-- A revision with the time of its making is the same deployment whenever it is looked at. -/
private theorem toDeployment_of_dated {revision : ReleaseRevision}
    (timed : revision.lastDeployed.isSome) (now later : Time.Instant) :
    toDeployment later revision = toDeployment now revision := by
  obtain ⟨made, same⟩ := Option.isSome_iff_exists.mp timed
  simp only [toDeployment, same, Option.getD_some]

/-- The last revision of a release is one of its history. -/
private theorem dated_latest (h : Dated store) {home name : String} {last : ReleaseRevision}
    (latest : store.latest? home name = some last) : last.lastDeployed.isSome := by
  obtain ⟨history, found, ends⟩ := Option.bind_eq_some_iff.mp latest
  exact h.dated home name history found last (List.mem_of_getLast? ends)

variable {memory after : Memory} {install : InstallRequest}

/-- Another release is found as before. -/
private theorem getDeployment_of_other (h : Dated memory.releases)
    (pushed : after.releases = (memory.releases.push (Store.installed now install)).2) {id : String}
    (other : id ≠ install.name) {earlier : Time.Instant} {found : Deployment}
    (before : (getDeployment earlier id).runInMemory earlier memory = (.ok found, memory))
    (later : Time.Instant) :
    (getDeployment later id).runInMemory later after = (.ok found, after) := by
  obtain ⟨checked, home, last, listed, latest, rfl⟩ := namespaces_of_getDeployment before
  obtain ⟨there, alone⟩ := h.namespaces_eq_singleton_iff.mp listed
  have filed := h.toFiled.push (Store.installed now install)
  have listed' : after.releases.namespaces id = [home] := by
    rw [pushed, filed.namespaces_eq_singleton_iff]
    refine ⟨Store.history?_push_ne_none_iff.mpr (.inr there), fun home' there' => ?_⟩
    rcases Store.history?_push_ne_none_iff.mp there' with ⟨-, same⟩ | old
    · exact absurd same other
    · exact alone home' old
  have latest' : after.releases.latest? home id = some last := by
    rw [pushed, Store.latest?, Store.history?_push_of_ne _ fun same => other same.2]
    exact latest
  rw [getDeployment_of_namespaces checked listed' latest',
    toDeployment_of_dated (dated_latest h latest) earlier later]

/-- A new release is found if its name was free everywhere. -/
private theorem getDeployment_of_free (h : Dated memory.releases)
    (checked : checkName "name" install.name = .ok ())
    (pushed : after.releases = (memory.releases.push (Store.installed now install)).2)
    (free : ∀ home, memory.releases.history? home install.name = none) (later : Time.Instant) :
    (getDeployment later install.name).runInMemory later after =
      (.ok (toDeployment now (memory.releases.push (Store.installed now install)).1), after) := by
  have listed : after.releases.namespaces install.name = [install.namespace] := by
    rw [pushed]
    exact h.toFiled.namespaces_push fun home there => absurd (free home) there
  have latest : after.releases.latest? install.namespace install.name =
      some (memory.releases.push (Store.installed now install)).1 := by
    rw [pushed]
    exact Store.latest?_of_history? _ (Store.history?_push_self _ (Store.installed now install))
  rw [getDeployment_of_namespaces (checkName_field checked) listed latest,
    toDeployment_of_dated rfl now later]

/-- A new release whose name is used in another namespace is not found, nor is the other one. -/
private theorem getDeployment_of_taken (h : Dated memory.releases)
    (checked : checkName "name" install.name = .ok ())
    (vacant : memory.releases.latest? install.namespace install.name = none)
    (pushed : after.releases = (memory.releases.push (Store.installed now install)).2)
    {home : String} (taken : memory.releases.history? home install.name ≠ none)
    (later : Time.Instant) :
    ∃ reason, (getDeployment later install.name).runInMemory later after =
      (.error (.invalid "id" reason), after) := by
  have filed := h.toFiled.push (Store.installed now install)
  have elsewhere : home ≠ install.namespace := by
    rintro rfl
    exact taken (h.history?_eq_none_of_latest? vacant)
  have old : after.releases.history? home install.name ≠ none := by
    rw [pushed]
    exact Store.history?_push_ne_none_iff.mpr (.inr taken)
  have new : after.releases.history? install.namespace install.name ≠ none := by
    rw [pushed]
    exact Store.history?_push_ne_none_iff.mpr (.inl ⟨rfl, rfl⟩)
  rw [← pushed] at filed
  obtain ⟨first, second, rest, listed⟩ := filed.namespaces_of_ne elsewhere old new
  exact ⟨_, getDeployment_of_ambiguous (checkName_field checked) listed⟩

/-- In every state that the gateway can get into, the deployments listed have distinct ids just if no name
is used in two namespaces. A new deployment is found by its id just if no release had its name before;
otherwise that id is refused from then on. Every other id finds what it found. -/
theorem addressable_of_reached (reached : Reached operations memory) :
    (∀ now, ∃ listed,
      (listDeployments now .everything).runInMemory now memory = (.ok listed, memory) ∧
        ((listed.map Deployment.id).Nodup ↔ memory.releases.Unambiguous)) ∧
    ∀ now request deployment after,
      (createDeployment now request).Runs now memory (.ok deployment) after →
        deployment.id = request.name ∧
        ((∀ home, memory.releases.history? home request.name = none) → ∀ later,
          (getDeployment later deployment.id).runInMemory later after = (.ok deployment, after)) ∧
        (∀ home, memory.releases.history? home request.name ≠ none → ∀ later, ∃ reason,
          (getDeployment later deployment.id).runInMemory later after =
            (.error (.invalid "id" reason), after)) ∧
        ∀ id, id ≠ request.name → ∀ earlier found,
          (getDeployment earlier id).runInMemory earlier memory = (.ok found, memory) →
            ∀ later, (getDeployment later id).runInMemory later after = (.ok found, after) := by
  have h := dated_of_reached reached
  refine ⟨nodup_listDeployments h, fun now request deployment after run => ?_⟩
  obtain ⟨checked, install, name, space, vacant, pushed, rfl⟩ :=
    ensures_createDeployment request memory _ after rfl run deployment rfl
  rw [← name] at checked
  rw [← name, ← space] at vacant
  rw [← name]
  refine ⟨rfl, fun free later => ?_, fun home taken later => ?_, fun id other earlier found => ?_⟩
  · exact getDeployment_of_free h checked pushed free later
  · exact getDeployment_of_taken h checked vacant pushed taken later
  · exact getDeployment_of_other h pushed other

end

/-- A request for a release of one name in some namespace. -/
def requestIn («namespace» : String) : DeploymentRequest where
  name := "web"
  «namespace» := «namespace»
  packageId := none
  values := .empty
  labels := .empty
  extensions := .ofList [("chart", .string "stable/nginx")]

/-- The run of a request for such a release. -/
def createdIn («namespace» : String) (memory : Memory) : Outcome Deployment × Memory :=
  (createDeployment ⟨0, 0⟩ (requestIn «namespace»)).runInMemory ⟨0, 0⟩ memory

/-- The memory with a release of that name in one namespace, and then in a second one as well. -/
def single : Memory :=
  (createdIn "prod" .empty).2

def double : Memory :=
  (createdIn "staging" single).2

private theorem reached_single : Reached operations single :=
  Reached.empty.runInMemory ⟨0, 0⟩ (.createDeployment (requestIn "prod"))

private theorem runs_double :
    ∃ deployment, deployment.id = "web" ∧
      (createDeployment ⟨0, 0⟩ (requestIn "staging")).Runs ⟨0, 0⟩ single (.ok deployment) double := by
  obtain ⟨deployment, id, succeeds⟩ :
      ∃ deployment : Deployment, deployment.id = "web" ∧
        (createdIn "staging" single).1 = .ok deployment := ⟨_, rfl, rfl⟩
  refine ⟨deployment, id, ?_⟩
  rw [← succeeds]
  exact Program.runs_runInMemory _ _

private theorem history?_single : single.releases.history? "prod" "web" ≠ none := by
  rw [Option.ne_none_iff_isSome]
  decide +kernel

/-- After the second release of one name its id is refused. -/
theorem addressable_of_reached_single :
    ∃ deployment reason,
      (createDeployment ⟨0, 0⟩ (requestIn "staging")).Runs ⟨0, 0⟩ single (.ok deployment) double ∧
        (getDeployment ⟨1, 0⟩ deployment.id).runInMemory ⟨1, 0⟩ double =
          (.error (.invalid "id" reason), double) := by
  obtain ⟨deployment, -, run⟩ := runs_double
  obtain ⟨-, -, hidden, -⟩ := (addressable_of_reached reached_single).2 _ _ deployment _ run
  obtain ⟨reason, refused⟩ := hidden "prod" history?_single ⟨1, 0⟩
  exact ⟨deployment, reason, run, refused⟩

private theorem not_unambiguous_double : ¬ double.releases.Unambiguous := by
  intro unambiguous
  have prod : double.releases.history? "prod" "web" ≠ none := by
    rw [Option.ne_none_iff_isSome]
    decide +kernel
  have staging : double.releases.history? "staging" "web" ≠ none := by
    rw [Option.ne_none_iff_isSome]
    decide +kernel
  exact absurd (unambiguous "web" "prod" "staging" prod staging) (by decide)

/-- A new release may be hidden from its own id, hide another one, and make the ids listed repeat. -/
theorem createDeployment_hides_release :
    ∃ memory after deployment, Reached operations memory ∧
      (createDeployment ⟨0, 0⟩ (requestIn "staging")).Runs ⟨0, 0⟩ memory (.ok deployment) after ∧
      (∃ found, (getDeployment ⟨1, 0⟩ "web").runInMemory ⟨1, 0⟩ memory = (.ok found, memory)) ∧
      (∀ found, (getDeployment ⟨1, 0⟩ deployment.id).runInMemory ⟨1, 0⟩ after ≠
        (.ok found, after)) ∧
      (∀ found, (getDeployment ⟨1, 0⟩ "web").runInMemory ⟨1, 0⟩ after ≠ (.ok found, after)) ∧
      ∃ listed,
        (listDeployments ⟨1, 0⟩ .everything).runInMemory ⟨1, 0⟩ after = (.ok listed, after) ∧
          ¬ (listed.map Deployment.id).Nodup := by
  obtain ⟨deployment, id, run⟩ := runs_double
  have refused (found : Deployment) :
      (getDeployment ⟨1, 0⟩ "web").runInMemory ⟨1, 0⟩ double ≠ (.ok found, double) := by
    have fails : (getDeployment ⟨1, 0⟩ "web").runInMemory ⟨1, 0⟩ double = (.error _, double) := rfl
    rw [fails]
    simp
  have reached : Reached operations double := .run _ (.createDeployment _) reached_single run
  obtain ⟨listed, shown, distinct⟩ := nodup_listDeployments (dated_of_reached reached) ⟨1, 0⟩
  refine ⟨single, double, deployment, reached_single, run, ⟨_, rfl⟩, ?_, refused, listed, shown, ?_⟩
  · rw [id]
    exact refused
  · exact fun nodup => not_unambiguous_double (distinct.mp nodup)

end OnManager

end DeploymentGateway.Release
