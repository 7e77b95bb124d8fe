import DeploymentGateway.Proofs.Release.Address
import DeploymentGateway.Proofs.Release.WellFormed
/-!
The version of a deployment counts the operations on its release. An operation that fails leaves the
releases; one that succeeds installs a release, or adds a revision to the one that its id leads to, or adds
nothing. So the last revision of a release has the number of those that were successful since the release
was installed.
-/

set_option autoImplicit false

namespace DeploymentGateway

/-- The namespace and the name of the release that an action is to install. -/
def Action.installs? : Action → Option (String × String)
  | .createDeployment request => some (request.namespace, request.name)
  | _ => none

/-- The id of the release that an action is to add a revision to. -/
def Action.continues? : Action → Option String
  | .updateDeployment id _ | .scaleDeployment id _ | .rollbackDeployment id _ => some id
  | _ => none

theorem Action.continues?_of_installs? {action : Action} {place : String × String}
    (asked : action.installs? = some place) : action.continues? = none := by
  cases action with
  | createDeployment request => rfl
  | _ => cases asked

namespace Release

open Rules Cluster

/-! What an operation does to the releases. -/

/-- What becomes of the releases by an action that succeeds or fails. -/
inductive Effect (store : Store) (action : Action) : Bool → Store → Prop where
  | failed : Effect store action false store
  | installed {home name : String} {after : Store} (asked : action.installs? = some (home, name))
    (checked : checkName "id" name = .ok ()) (free : store.history? home name = none)
    (adds : store.Adds home name after) : Effect store action true after
  | continued {home id : String} {after : Store} (asked : action.continues? = some id)
    (listed : store.namespaces id = [home]) (adds : store.Adds home id after) :
    Effect store action true after
  | removed {home id : String} (asked : action = .deleteDeployment id)
    (listed : store.namespaces id = [home]) :
    Effect store action true ⟨store.releases.erase ⟨home, id⟩⟩
  | read (installs : action.installs? = none) (continues : action.continues? = none) :
    Effect store action true store

namespace OnManager

variable {now : Time.Instant} {store : Store}

/-- A program has the effect of an action. -/
abbrev HasEffect {α : Type} (now : Time.Instant) (store : Store) (action : Action) (p : Program α) :
    Prop :=
  p.Ensures .releases now store fun outcome after => Effect store action outcome.isOk after

section

variable {α β : Type} {action : Action}

/-- What only reads may come first. -/
theorem effect_reads {p : Program β} (reads : p.ReadOnly) {f : β → Program α}
    (next : ∀ b, HasEffect now store action (f b)) : HasEffect now store action (p >>= f) := by
  refine (reads.ensures store).bind ?_ ?_
  · rintro b _ rfl
    exact next b
  · rintro failure _ rfl
    exact .failed

theorem effect_locate {operation id : String} {f : String → Program α}
    (next : ∀ home, store.namespaces id = [home] → HasEffect now store action (f home)) :
    HasEffect now store action (locate operation id >>= f) := by
  refine ensures_locate.bind ?_ ?_
  · rintro home _ ⟨rfl, located⟩
    exact next home (located home rfl).2
  · rintro failure _ ⟨rfl, -⟩
    exact .failed

theorem effect_current {operation id : String} {f : ReleaseRevision → Program α}
    (next : ∀ home last, store.namespaces id = [home] → store.latest? home id = some last →
      HasEffect now store action (f last)) :
    HasEffect now store action (current operation id >>= f) := by
  refine ensures_current.bind ?_ ?_
  · rintro last _ ⟨rfl, found⟩
    obtain ⟨-, home, listed, latest⟩ := found last rfl
    exact next home last listed latest
  · rintro failure _ ⟨rfl, -⟩
    exact .failed

end

theorem effect_createDeployment (orderly : store.Orderly) (request : DeploymentRequest) :
    HasEffect now store (.createDeployment request) (createDeployment now request) := by
  refine .checkpoint .failed ?_
  refine .check (fun _ _ => .failed) fun _ named => ?_
  refine .check (fun _ _ => .failed) fun _ _ => ?_
  refine .check (fun _ _ => .failed) fun version _ => .check (fun _ _ => .failed) fun repo _ => ?_
  refine effect_reads (readOnly_requestedSource request version repo) fun wanted => ?_
  obtain ⟨source, version⟩ := wanted
  refine .connect .failed (.install ?_)
  -- The name is in use, and nothing happens, or the first revision is made.
  unfold Store.install
  split
  · exact .done .failed
  · rename_i free
    have absent := orderly.filed.history?_eq_none_of_latest? free
    refine (ensures_remember _ source).bind ?_ fun _ _ ended => nomatch ended.1
    rintro ⟨⟩ _ ⟨-, rfl⟩
    exact .done (.installed rfl (checkName_field named) absent ⟨_, rfl, rfl, rfl, rfl⟩)

theorem effect_deleteDeployment (id : String) :
    HasEffect now store (.deleteDeployment id) (deleteDeployment id) := by
  refine .checkpoint .failed (effect_locate fun home listed => ?_)
  refine .connect .failed (.uninstall ?_)
  rcases found : store.history? home id with _ | history
  · rw [store.uninstall_of_none found]
    exact .done .failed
  · rw [Store.uninstall_of_some _ found]
    simp only [Program.expect_ok, Program.done_ok_bind]
    refine (ensures_forgetSource home).mono ?_
    rintro _ _ ⟨rfl, rfl⟩
    exact .removed rfl listed

section

variable {action : Action} {id home : String} (orderly : store.Orderly)
  (asked : action.continues? = some id) (listed : store.namespaces id = [home])

include orderly asked listed

private theorem effect_upgrade {last : ReleaseRevision} (latest : store.latest? home id = some last)
    {operation : String} {request : UpgradeRequest} {source : ChartSource}
    (named : request.name = last.name) (placed : request.namespace = last.namespace) :
    HasEffect now store action (upgrade now operation request source) := by
  obtain ⟨history, found, ends⟩ := Option.bind_eq_some_iff.mp latest
  obtain ⟨name, space⟩ := (orderly home id history found).own last (List.mem_of_getLast? ends)
  have latest' : store.latest? request.namespace request.name = some last := by
    rw [placed, named, space, name, latest]
  refine .connect .failed (.upgrade ?_)
  rw [store.upgrade_of_latest now latest']
  refine (ensures_remember _ source).bind ?_ fun _ _ ended => nomatch ended.1
  rintro ⟨⟩ _ ⟨-, rfl⟩
  exact .done (.continued asked listed ⟨Store.upgraded now last request, space, name, rfl, rfl⟩)

private theorem effect_rollbackTo (number : Int64) :
    HasEffect now store action (rollbackTo now home id number) := by
  refine .rollback ?_
  rcases store.rollback_cases home id number with ⟨error, refused⟩ | ⟨target, mem, repeats⟩
  · rw [refused]
    exact .done .failed
  · obtain ⟨name, space⟩ := (orderly.inOrder_getD home id).own target mem
    obtain ⟨restored, status⟩ := store.status_of_rollback repeats
    rw [repeats]
    simp only [Program.expect_ok, Program.done_ok_bind]
    refine .releaseStatus ?_
    rw [status]
    simp only [Program.expect_ok, Program.done_ok_bind]
    refine (ensures_renew home restored).mono ?_
    rintro _ _ ⟨rfl, rfl⟩
    exact .continued asked listed ⟨Store.repeated target number, space, name, rfl, rfl⟩

end

section

variable (orderly : store.Orderly) (id : String)

include orderly

theorem effect_updateDeployment (update : DeploymentUpdate) :
    HasEffect now store (.updateDeployment id update) (updateDeployment now id update) := by
  refine .checkpoint .failed ?_
  refine .check (fun _ _ => .failed) fun chart _ => .check (fun _ _ => .failed) fun version _ => ?_
  refine .check (fun _ _ => .failed) fun repo _ => ?_
  refine effect_current fun home last listed latest => ?_
  refine effect_reads (readOnly_updatedSource last id update chart version repo) fun wanted => ?_
  exact effect_upgrade orderly rfl listed latest rfl rfl

theorem effect_scaleDeployment (replicas : Int32) :
    HasEffect now store (.scaleDeployment id replicas) (scaleDeployment now id replicas) := by
  refine .checkpoint .failed ?_
  refine .check (fun _ _ => .failed) fun _ _ => .check (fun _ _ => .failed) fun _ _ => ?_
  refine effect_current fun home last listed latest => ?_
  refine effect_reads (readOnly_recordedSource "scale" last.namespace id) fun recorded => ?_
  cases recorded with
  | none => exact .done .failed
  | some source => exact effect_upgrade orderly rfl listed latest rfl rfl

theorem effect_rollbackDeployment (revision : Int64) :
    HasEffect now store (.rollbackDeployment id revision) (rollbackDeployment now id revision) := by
  refine .checkpoint .failed ?_
  refine .check (fun _ _ => .failed) fun _ _ => .check (fun _ _ => .failed) fun _ _ => ?_
  refine effect_locate fun home listed => ?_
  refine .connect .failed (.releaseHistory ?_)
  unfold Store.history
  split
  · refine .check (fun _ _ => .failed) fun history _ => ?_
    refine .check (fun _ _ => .failed) fun index _ => ?_
    exact effect_rollbackTo orderly rfl listed _
  · exact .done .failed

end

/-- Each action has its effect, whatever the caller and the cluster do meanwhile. -/
theorem effect_action (orderly : store.Orderly) (action : Action) :
    HasEffect now store action (action.program (operations now)) := by
  have reading (reads : (action.program (operations now)).ReadOnly) (installs : action.installs? = none)
      (continues : action.continues? = none) :
      HasEffect now store action (action.program (operations now)) := by
    refine (reads.ensures store).mono ?_
    rintro (failure | result) _ rfl
    · exact .failed
    · exact .read installs continues
  cases action with
  | createDeployment request => exact effect_createDeployment orderly request
  | updateDeployment id update => exact effect_updateDeployment orderly id update
  | deleteDeployment id => exact effect_deleteDeployment id
  | scaleDeployment id replicas => exact effect_scaleDeployment orderly id replicas
  | rollbackDeployment id revision => exact effect_rollbackDeployment orderly id revision
  | uploadPackage upload => exact reading (by simp [operations, uploadPackage]) rfl rfl
  | deletePackage id => exact reading (by simp [operations, deletePackage]) rfl rfl
  | _ => exact reading (readOnly_action now rfl) rfl rfl

/-! The attempts on a release since it was installed. -/

/-- An action that was attempted, and whether it succeeded. -/
structure Attempt where
  action : Action
  succeeded : Bool

/-- The release was installed. -/
def Attempt.installs (home name : String) (attempt : Attempt) : Bool :=
  attempt.succeeded && attempt.action.installs? == some (home, name)

/-- The release was installed, or another revision was added to it. -/
def Attempt.adds (home name : String) (attempt : Attempt) : Bool :=
  attempt.succeeded &&
    (attempt.action.installs? == some (home, name) || attempt.action.continues? == some name)

/-- Of attempts with the last one first, those down to the one that installed a release. -/
def sinceInstalled (home name : String) : List Attempt → List Attempt
  | [] => []
  | attempt :: earlier =>
    if attempt.installs home name then [attempt] else attempt :: sinceInstalled home name earlier

/-- How often a revision was added to a release since it was installed, which counts as the first time. -/
def additions (home name : String) (attempts : List Attempt) : Nat :=
  (sinceInstalled home name attempts).countP (Attempt.adds home name)

section

variable {home name : String} {attempt : Attempt}

theorem Attempt.installs_iff : attempt.installs home name = true ↔
    attempt.succeeded = true ∧ attempt.action.installs? = some (home, name) := by
  rw [Attempt.installs, Bool.and_eq_true, beq_iff_eq]

theorem Attempt.adds_iff : attempt.adds home name = true ↔ attempt.succeeded = true ∧
    (attempt.action.installs? = some (home, name) ∨ attempt.action.continues? = some name) := by
  rw [Attempt.adds, Bool.and_eq_true, Bool.or_eq_true, beq_iff_eq, beq_iff_eq]

theorem Attempt.adds_of_installs (installs : attempt.installs home name = true) :
    attempt.adds home name = true := by
  obtain ⟨succeeded, asked⟩ := installs_iff.mp installs
  exact adds_iff.mpr ⟨succeeded, .inl asked⟩

theorem Attempt.not_adds_of_none (installs : attempt.action.installs? = none)
    (continues : attempt.action.continues? = none) : ¬ attempt.adds home name = true := by
  intro adds
  rcases (adds_iff.mp adds).2 with asked | asked
  · cases installs.symm.trans asked
  · cases continues.symm.trans asked

theorem additions_of_installs (installs : attempt.installs home name = true)
    (earlier : List Attempt) : additions home name (attempt :: earlier) = 1 := by
  rw [additions, sinceInstalled, if_pos installs, List.countP_singleton,
    if_pos (Attempt.adds_of_installs installs)]

theorem additions_of_not_installs (other : ¬ attempt.installs home name = true)
    (earlier : List Attempt) : additions home name (attempt :: earlier) =
      additions home name earlier + if attempt.adds home name then 1 else 0 := by
  rw [additions, sinceInstalled, if_neg other, List.countP_cons, additions]

theorem additions_of_not_adds (idle : ¬ attempt.adds home name = true) (earlier : List Attempt) :
    additions home name (attempt :: earlier) = additions home name earlier := by
  have other : ¬ attempt.installs home name = true :=
    fun installs => idle (Attempt.adds_of_installs installs)
  rw [additions_of_not_installs other, if_neg idle, Nat.add_zero]

end

/-! What the attempts tell of the releases. -/

/-- The attempts account for the releases: each has as many revisions as were added to it. -/
structure Accounts (attempts : List Attempt) (store : Store) : Prop where
  orderly : store.Orderly
  checked : ∀ home name, store.history? home name ≠ none → checkName "id" name = .ok ()
  counted : ∀ home name history, store.history? home name = some history →
    history.length = additions home name attempts

namespace Accounts

variable {attempts : List Attempt} {attempt : Attempt} {after : Store} (h : Accounts attempts store)

theorem empty : Accounts [] .empty :=
  ⟨Store.orderly_empty, fun _ _ there => absurd rfl there, nofun⟩

include h

/-- An attempt that adds to no release accounts for what is left. -/
theorem idle (other : ∀ home name, ¬ attempt.adds home name = true)
    (there : ∀ home name history, after.history? home name = some history →
      store.history? home name = some history) : Accounts (attempt :: attempts) after where
  orderly := h.orderly.of_subset there
  checked home name present := by
    obtain ⟨history, found⟩ := Option.ne_none_iff_exists'.mp present
    refine h.checked home name ?_
    rw [there home name history found]
    exact Option.some_ne_none history
  counted home name history found := by
    rw [additions_of_not_adds (other home name)]
    exact h.counted home name history (there home name history found)

/-- An attempt that adds to one release accounts for it, and for the others. -/
theorem adds {home name : String} (adds : store.Adds home name after)
    (checked : checkName "id" name = .ok ())
    (counted : additions home name (attempt :: attempts) =
      ((store.history? home name).getD []).length + 1)
    (other : ∀ home' name', ¬ (home' = home ∧ name' = name) → store.history? home' name' ≠ none →
      ¬ attempt.adds home' name' = true) : Accounts (attempt :: attempts) after where
  orderly := h.orderly.adds adds
  checked home' name' present := by
    by_cases here : home' = home ∧ name' = name
    · rw [here.2]
      exact checked
    · rw [adds.history?_of_ne here] at present
      exact h.checked home' name' present
  counted home' name' history found := by
    by_cases here : home' = home ∧ name' = name
    · obtain ⟨rfl, rfl⟩ := here
      obtain ⟨history', found', length⟩ := adds.history?_self
      rw [found] at found'
      cases found'
      rw [length, counted]
    · rw [adds.history?_of_ne here] at found
      have present : store.history? home' name' ≠ none := by
        rw [found]
        exact Option.some_ne_none history
      rw [additions_of_not_adds (other home' name' here present)]
      exact h.counted home' name' history found

/-- What an attempt does to the releases, it accounts for. -/
theorem step {action : Action} {succeeded : Bool} (effect : Effect store action succeeded after) :
    Accounts (⟨action, succeeded⟩ :: attempts) after := by
  cases effect with
  | failed =>
    refine h.idle (fun home name adds => ?_) fun _ _ _ there => there
    exact absurd (Attempt.adds_iff.mp adds).1 Bool.false_ne_true
  | @installed home name _ asked checked free adds =>
    have installs : Attempt.installs home name ⟨action, true⟩ = true :=
      Attempt.installs_iff.mpr ⟨rfl, asked⟩
    refine h.adds adds checked ?_ fun home' name' elsewhere _ adds' => ?_
    · rw [additions_of_installs installs, free]
      rfl
    · rcases (Attempt.adds_iff.mp adds').2 with asked' | continues
      · cases asked.symm.trans asked'
        exact elsewhere ⟨rfl, rfl⟩
      · cases continues.symm.trans (Action.continues?_of_installs? asked)
  | @continued home id _ asked listed adds =>
    obtain ⟨present, alone⟩ := h.orderly.filed.namespaces_eq_singleton_iff.mp listed
    obtain ⟨history, found⟩ := Option.ne_none_iff_exists'.mp present
    have other (home' name' : String) : ¬ action.installs? = some (home', name') := by
      intro installs
      cases asked.symm.trans (Action.continues?_of_installs? installs)
    refine h.adds adds (h.checked home id present) ?_ fun home' name' elsewhere present' adds' => ?_
    · have installs : ¬ Attempt.installs home id ⟨action, true⟩ = true :=
        fun installs => other home id (Attempt.installs_iff.mp installs).2
      have adding : Attempt.adds home id ⟨action, true⟩ = true :=
        Attempt.adds_iff.mpr ⟨rfl, .inr asked⟩
      rw [additions_of_not_installs installs, if_pos adding, found, Option.getD_some,
        h.counted home id history found]
    · rcases (Attempt.adds_iff.mp adds').2 with installs | asked'
      · exact other home' name' installs
      -- The id leads to this release alone, so no other one has its name.
      · cases asked.symm.trans asked'
        exact elsewhere ⟨alone home' present', rfl⟩
  | removed asked listed =>
    subst asked
    exact h.idle (fun _ _ => Attempt.not_adds_of_none rfl rfl) fun _ _ _ there =>
      SortedMap.get?_of_get?_erase there
  | read installs continues =>
    exact h.idle (fun _ _ => Attempt.not_adds_of_none installs continues) fun _ _ _ there => there

end Accounts

/-- The states that attempts lead to from no releases, the last attempt first. The cluster is any to begin
with, and others may alter it in between. -/
inductive ReachedBy : List Attempt → Memory → Prop where
  | start (cluster : Cluster.Store) : ReachedBy [] ⟨cluster, .empty⟩
  | run {attempts : List Attempt} {memory after : Memory} (now : Time.Instant) (action : Action)
    {outcome : Outcome action.Result} : ReachedBy attempts memory →
      (action.program (operations now)).Runs now memory outcome after →
      ReachedBy (⟨action, outcome.isOk⟩ :: attempts) after
  | aside {attempts : List Attempt} {memory : Memory} (cluster : Cluster.Store) :
    ReachedBy attempts memory → ReachedBy attempts { memory with cluster }

/-- Whatever is attempted, the attempts account for the releases. -/
theorem accounts_of_reachedBy {attempts : List Attempt} {memory : Memory}
    (reached : ReachedBy attempts memory) : Accounts attempts memory.releases := by
  induction reached with
  | start cluster => exact .empty
  | run now action _ run h => exact h.step (effect_action h.orderly action _ _ _ rfl run)
  | aside cluster _ h => exact h

/-- In every state that attempts lead to, the histories of the releases are well formed. And if a name is
used in one namespace only, the version of its deployment is how often a revision was added to the release
by an operation that succeeded, from its installation on. -/
theorem version_eq_additions {attempts : List Attempt} {memory : Memory}
    (reached : ReachedBy attempts memory) :
    (∀ home name history, memory.releases.history? home name = some history →
      WellFormed home name history) ∧
    ∀ home name, memory.releases.history? home name ≠ none →
      (∀ home', memory.releases.history? home' name ≠ none → home' = home) →
      ∀ now, ∃ deployment,
        (getDeployment now name).runInMemory now memory = (.ok deployment, memory) ∧
          deployment.name = name ∧ deployment.namespace = home ∧
          deployment.version = Int64.ofNat (additions home name attempts) := by
  have h := accounts_of_reachedBy reached
  refine ⟨h.orderly, fun home name present alone now => ?_⟩
  obtain ⟨history, found⟩ := Option.ne_none_iff_exists'.mp present
  have wellFormed := h.orderly home name history found
  have ends := List.getLast?_eq_some_getLast wellFormed.nonempty
  have latest : memory.releases.latest? home name = some (history.getLast wellFormed.nonempty) := by
    rw [Store.latest?, found, Option.bind_some, ends]
  have listed := h.orderly.filed.namespaces_eq_singleton_iff.mpr ⟨present, alone⟩
  obtain ⟨named, placed⟩ := wellFormed.own _ (List.getLast_mem wellFormed.nonempty)
  refine ⟨_, getDeployment_of_namespaces (h.checked home name present) listed latest, named, placed, ?_⟩
  rw [← h.counted home name history found]
  exact wellFormed.revision_last ends

/-- The attempts that actions are for a caller who always waits, and what they leave. The last comes first. -/
def carryOut (now : Time.Instant) : List Action → List Attempt × Memory
  | [] => ([], .empty)
  | action :: earlier =>
    let run := (action.program (operations now)).runInMemory now (carryOut now earlier).2
    (⟨action, run.1.isOk⟩ :: (carryOut now earlier).1, run.2)

theorem reachedBy_carryOut (now : Time.Instant) (actions : List Action) :
    ReachedBy (carryOut now actions).1 (carryOut now actions).2 := by
  induction actions with
  | nil => exact .start .empty
  | cons action earlier ih => exact .run now action ih (Program.runs_runInMemory _ _)

/-- A release that was installed anew, scaled, returned to its first revision, and not scaled at last. -/
def reinstalling : List Action :=
  [.scaleDeployment "web" (-1), .rollbackDeployment "web" 0, .scaleDeployment "web" 5,
    .createDeployment (requestIn "prod"), .deleteDeployment "web", .scaleDeployment "web" 3,
    .createDeployment (requestIn "prod")]

/-- What was done before the release was removed does not count, nor what failed. -/
theorem version_eq_additions_reinstalled :
    (carryOut ⟨0, 0⟩ reinstalling).1.map Attempt.succeeded =
      [false, true, true, true, true, true, true] ∧
    ∃ deployment, (getDeployment ⟨1, 0⟩ "web").runInMemory ⟨1, 0⟩ (carryOut ⟨0, 0⟩ reinstalling).2 =
      (.ok deployment, (carryOut ⟨0, 0⟩ reinstalling).2) ∧ deployment.version = 3 := by
  have reached := reachedBy_carryOut ⟨0, 0⟩ reinstalling
  have filed := (accounts_of_reachedBy reached).orderly.filed
  obtain ⟨present, alone⟩ := filed.namespaces_eq_singleton_iff.mp
    (show (carryOut ⟨0, 0⟩ reinstalling).2.releases.namespaces "web" = ["prod"] by decide +kernel)
  obtain ⟨deployment, found, -, -, version⟩ :=
    (version_eq_additions reached).2 "prod" "web" present alone ⟨1, 0⟩
  have counted : additions "prod" "web" (carryOut ⟨0, 0⟩ reinstalling).1 = 3 := by decide +kernel
  rw [counted] at version
  exact ⟨by decide +kernel, deployment, found, version⟩

end OnManager

end Release

end DeploymentGateway
