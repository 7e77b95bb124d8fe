import DeploymentGateway.Proofs.History.Position
import DeploymentGateway.Proofs.Release.Address
/-!
What operations on a release leave of the way an id leads to it. A further revision is filed under the
namespace and name that it carries itself, and an id is looked up among the last revisions. So an id leads
where it did as long as the last revision that it finds is replaced by one of the same namespace and name.
-/

set_option autoImplicit false

namespace DeploymentGateway.Release

namespace Store

/-- The namespace of the last revision of a history, if that revision has a name. -/
private def homeOf? (name : String) (history : List ReleaseRevision) : Option String :=
  (history.getLast?.filter fun revision => revision.name == name).map fun revision =>
    revision.namespace

private theorem namespaces_eq_filterMap (store : Store) (name : String) :
    store.namespaces name = store.releases.toList.filterMap fun entry => homeOf? name entry.2 := by
  simp only [namespaces, list, List.filter_filterMap, List.map_filterMap]
  rfl

private theorem homeOf?_of_last {name : String} {history : List ReleaseRevision}
    {last : ReleaseRevision} (ends : history.getLast? = some last) (named : last.name = name) :
    homeOf? name history = some last.namespace := by
  simp [homeOf?, ends, named]

variable {store : Store}

/-- If a name leads to one namespace, only one release has a last revision of that name, and it tells of
that namespace. -/
theorem unique_of_namespaces {name home space filed : String} {last : ReleaseRevision}
    (listed : store.namespaces name = [home]) (latest : store.latest? space filed = some last)
    (named : last.name = name) :
    last.namespace = home ∧ ∀ (space' filed' : String) (last' : ReleaseRevision),
      store.latest? space' filed' = some last' → last'.name = name →
        space' = space ∧ filed' = filed := by
  have entry (space filed : String) (last : ReleaseRevision)
      (latest : store.latest? space filed = some last) (named : last.name = name) :
      ∃ history, (⟨space, filed⟩, history) ∈ store.releases.toList ∧
        homeOf? name history = some last.namespace := by
    obtain ⟨history, found, ends⟩ := Option.bind_eq_some_iff.mp latest
    exact ⟨history, SortedMap.mem_toList_iff.mpr found, homeOf?_of_last ends named⟩
  rw [namespaces_eq_filterMap, List.filterMap_eq_cons_iff] at listed
  obtain ⟨before, only, behind, split, none_before, here, none_behind⟩ := listed
  have alone (entry : ReleaseKey × List ReleaseRevision) (mem : entry ∈ store.releases.toList)
      {place : String} (placed : homeOf? name entry.2 = some place) : entry = only := by
    rw [split, List.mem_append, List.mem_cons] at mem
    rcases mem with mem | rfl | mem
    · rw [none_before entry mem] at placed
      cases placed
    · rfl
    · rw [List.filterMap_eq_nil_iff.mp none_behind entry mem] at placed
      cases placed
  obtain ⟨history, mem, placed⟩ := entry space filed last latest named
  have same := alone _ mem placed
  rw [← same, placed] at here
  refine ⟨Option.some.inj here, fun space' filed' last' latest' named' => ?_⟩
  obtain ⟨history', mem', placed'⟩ := entry space' filed' last' latest' named'
  simpa using congrArg Prod.fst ((alone _ mem' placed').trans same.symm)

/-- A name leads where it did, if the revision that is added tells of it what the one before it did. -/
theorem namespaces_push {name : String} {next : ReleaseRevision}
    (same : (if next.name = name then some next.namespace else none) =
      (store.history? next.namespace next.name).bind (homeOf? name)) :
    (store.push next).2.namespaces name = store.namespaces name := by
  rw [namespaces_eq_filterMap, namespaces_eq_filterMap]
  refine SortedMap.filterMap_toList_insert ?_
  refine Eq.trans ?_ same
  simp [homeOf?, Option.filter_some]

/-- The revision that a rollback repeats: of those with the number of the one at a position of the history,
the first. -/
def repeats? (store : Store) (home id : String) (revision : Int64) : Option ReleaseRevision := do
  let history ← store.history? home id
  let index ← (Listing.historyIndex id revision history.length).toOption
  let entry ← history[index]?
  history.find? fun other => other.revision == entry.revision

/-- An id led to one release before and leads to it now, and its last revision has the name and the
namespace that the last one before it had. -/
structure Continues (store after : Store) (id home : String) (last next : ReleaseRevision) : Prop where
  listed : store.namespaces id = [home]
  latest : store.latest? home id = some last
  listed_after : after.namespaces id = [home]
  latest_after : after.latest? home id = some next
  name : next.name = last.name
  «namespace» : next.namespace = last.namespace

section

variable {id home : String} {last next : ReleaseRevision} (listed : store.namespaces id = [home])
  (latest : store.latest? home id = some last) (own : last.name = id)

include listed latest own

/-- A further revision of the release continues it. -/
theorem continues_push (named : next.name = id) (placed : next.namespace = home) :
    Continues store (store.push next).2 id home last (store.push next).1 := by
  subst named placed
  obtain ⟨at_home, -⟩ := unique_of_namespaces listed latest own
  obtain ⟨history, found, ends⟩ := Option.bind_eq_some_iff.mp latest
  refine ⟨listed, latest, (namespaces_push ?_).trans listed, ?_, own.symm, at_home.symm⟩
  · rw [if_pos rfl, found, Option.bind_some, homeOf?_of_last ends own, at_home]
  · exact latest?_of_history? _ (history?_push_self _ next)

/-- What is added under another name leaves the release as it is. -/
theorem continues_push_of_ne (other : next.name ≠ id) :
    Continues store (store.push next).2 id home last last := by
  obtain ⟨-, alone⟩ := unique_of_namespaces listed latest own
  refine ⟨listed, latest, (namespaces_push ?_).trans listed, ?_, rfl, rfl⟩
  · rw [if_neg other]
    rcases found : store.history? next.namespace next.name with _ | history
    · rfl
    rcases ends : history.getLast? with _ | last'
    · simp [homeOf?, ends]
    · have elsewhere : last'.name ≠ id := by
        intro named
        have latest' : store.latest? next.namespace next.name = some last' := by
          rw [latest?, found, Option.bind_some, ends]
        exact other (alone _ _ last' latest' named).2
      simp [homeOf?, ends, Option.filter_some, elsewhere]
  · rw [latest?, history?_push_of_ne _ fun same => other same.2.symm]
    exact latest

end

end Store

namespace OnManager

variable {now : Time.Instant} {store : Store} {id : String}

/-- The deployment that an operation tells of continues the one that its id led to. -/
def EnsuresContinued (now : Time.Instant) (store : Store) (id : String) (p : Program Deployment) :
    Prop :=
  p.Ensures .releases now store fun outcome after => ∀ altered, outcome = .ok altered →
    ∃ home last next, Store.Continues store after id home last next ∧
      altered = toDeployment now next

/-- The last revision of the release that an id leads to has the name that it is looked up by. -/
def OwnsName (store : Store) (id : String) : Prop :=
  ∀ home last, store.namespaces id = [home] → store.latest? home id = some last → last.name = id

variable (own : OwnsName store id)

include own

private theorem ensures_upgrade {operation home : String} {last : ReleaseRevision}
    {request : UpgradeRequest} {source : ChartSource} (listed : store.namespaces id = [home])
    (latest : store.latest? home id = some last) (named : request.name = last.name)
    (placed : request.namespace = last.namespace) :
    EnsuresContinued now store id (upgrade now operation request source) := by
  have named' := own home last listed latest
  obtain ⟨at_home, -⟩ := Store.unique_of_namespaces listed latest named'
  have latest' : store.latest? request.namespace request.name = some last := by
    rw [placed, named, at_home, named', latest]
  refine .connect nofun (.upgrade ?_)
  rw [store.upgrade_of_latest now latest']
  refine (ensures_remember _ source).bind ?_ fun _ _ ended => nomatch ended.1
  rintro ⟨⟩ _ ⟨-, rfl⟩
  refine .done ?_
  rintro _ ⟨⟩
  exact ⟨home, last, _, Store.continues_push listed latest named' named' at_home, rfl⟩

theorem ensures_updateDeployment (update : DeploymentUpdate) :
    EnsuresContinued now store id (updateDeployment now id update) := by
  refine .checkpoint nofun ?_
  refine .check (fun _ _ => nofun) fun chart _ => ?_
  refine .check (fun _ _ => nofun) fun version _ => .check (fun _ _ => nofun) fun repo _ => ?_
  refine ensures_current.bind ?_ fun _ _ _ => nofun
  rintro revision _ ⟨rfl, found⟩
  obtain ⟨-, home, listed, latest⟩ := found revision rfl
  refine ((readOnly_updatedSource revision id update chart version repo).ensures _).bind ?_
    fun _ _ _ => nofun
  rintro ⟨source, version⟩ _ rfl
  exact ensures_upgrade own listed latest rfl rfl

theorem ensures_scaleDeployment (replicas : Int32) :
    EnsuresContinued now store id (scaleDeployment now id replicas) := by
  refine .checkpoint nofun ?_
  refine .check (fun _ _ => nofun) fun _ _ => .check (fun _ _ => nofun) fun _ _ => ?_
  refine ensures_current.bind ?_ fun _ _ _ => nofun
  rintro revision _ ⟨rfl, found⟩
  obtain ⟨-, home, listed, latest⟩ := found revision rfl
  refine ((readOnly_recordedSource "scale" revision.namespace id).ensures _).bind ?_
    fun _ _ _ => nofun
  rintro source _ rfl
  cases source with
  | none => exact .done nofun
  | some source => exact ensures_upgrade own listed latest rfl rfl

/-- A rollback repeats the first revision of a number. -/
private theorem ensures_rollbackTo {home : String} {number : Int64}
    (listed : store.namespaces id = [home])
    (filed : ∀ target, ((store.history? home id).getD []).find? (fun entry =>
      entry.revision == number) = some target → target.name = id → target.namespace = home) :
    EnsuresContinued now store id (rollbackTo now home id number) := by
  refine .rollback ?_
  rcases first : ((store.history? home id).getD []).find? fun entry => entry.revision == number
    with _ | target
  · simp only [Store.rollback, first]
    refine .done ?_
    rintro _ ⟨⟩
  rw [store.rollback_of_find? first]
  obtain ⟨last, latest⟩ : ∃ last, store.latest? home id = some last := by
    rcases found : store.history? home id with _ | history
    · simp [found] at first
    have nonempty : history ≠ [] := by
      rintro rfl
      simp [found] at first
    exact ⟨_, by rw [Store.latest?, found, Option.bind_some, List.getLast?_eq_some_getLast nonempty]⟩
  have named := own home last listed latest
  obtain ⟨next, continues⟩ : ∃ next, Store.Continues store
      (store.push (Store.repeated target number)).2 id home last next := by
    by_cases same : target.name = id
    · exact ⟨_, Store.continues_push listed latest named same (filed target first same)⟩
    · exact ⟨_, Store.continues_push_of_ne listed latest named same⟩
  simp only [Program.expect_ok, Program.done_ok_bind]
  refine .releaseStatus ?_
  rw [Store.status, continues.latest_after]
  simp only [Program.expect_ok, Program.done_ok_bind]
  refine (ensures_renew home next).mono fun outcome after ended => ?_
  obtain ⟨rfl, rfl⟩ := ended
  rintro _ ⟨⟩
  exact ⟨home, last, next, continues, rfl⟩

theorem ensures_rollbackDeployment {revision : Int64}
    (filed : ∀ home target, store.namespaces id = [home] →
      store.repeats? home id revision = some target → target.name = id → target.namespace = home) :
    EnsuresContinued now store id (rollbackDeployment now id revision) := by
  refine .checkpoint nofun ?_
  refine .check (fun _ _ => nofun) fun _ _ => .check (fun _ _ => nofun) fun _ _ => ?_
  refine ensures_locate.bind ?_ fun _ _ _ => nofun
  rintro home _ ⟨rfl, located⟩
  obtain ⟨-, listed⟩ := located home rfl
  refine .connect nofun (.releaseHistory ?_)
  unfold Store.history
  split
  · rename_i history found
    refine .check (fun _ _ => nofun) fun _ same => .check (fun _ _ => nofun) fun index within => ?_
    cases same
    change (rollbackTo now home id _).Ensures .releases now _ _
    have inside := lt_of_historyIndex within
    rw [List.getElem?_eq_getElem inside]
    refine ensures_rollbackTo own listed fun target first => filed home target listed ?_
    rw [found, Option.getD_some] at first
    simp [Store.repeats?, found, within, Except.toOption, List.getElem?_eq_getElem inside, first]
  · exact .done nofun

end OnManager

end DeploymentGateway.Release
