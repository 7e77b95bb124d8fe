import DeploymentGateway.Http.Query
import DeploymentGateway.Proofs.Cluster.Selector
import DeploymentGateway.Proofs.Listing.Collection
/-!
Selection by labels. The labels that a query asks for are read from a text, kept in a map and written as a
selector, which the cluster reads again. The labels of a query have no mark of the selectors in them, so
nothing is lost on the way, and the objects that the cluster selects are those whose deployments have the
labels.
-/

set_option autoImplicit false

namespace DeploymentGateway

open Cluster Http Listing

/-- Labels that a selector can be written for: no mark of the selectors is in a name, and no comma in a
value. -/
def Selectable (labels : Labels) : Prop :=
  ∀ name value, labels.get? name = some value →
    (∀ c ∈ name.toList, c ≠ '=' ∧ c ≠ ',') ∧ ',' ∉ value.toList

/-! The labels of a query. -/

private theorem mem_of_mem_dropEndWhile {test : Char → Bool} {s : List Char} {c : Char}
    (mem : c ∈ Text.dropEndWhile test s) : c ∈ s := by
  have kept := (List.dropWhile_sublist test).subset (List.mem_reverse.mp mem)
  exact List.mem_reverse.mp kept

private theorem mem_of_mem_trim {s : String} {c : Char} (mem : c ∈ (Text.trim s).toList) :
    c ∈ s.toList := by
  rw [Text.trim, String.toList_ofList] at mem
  exact (List.dropWhile_sublist Text.isBlank).subset (mem_of_mem_dropEndWhile mem)

theorem Selectable.addTerms {labels added : Labels} {terms : List String}
    (selectable : Selectable labels) (plain : ∀ term ∈ terms, ∀ c ∈ term.toList, c ≠ ',')
    (run : ListQuery.addTerms labels terms = .ok added) : Selectable added := by
  induction terms generalizing labels with
  | nil =>
    cases run
    exact selectable
  | cons term rest ih =>
    obtain ⟨first, plain⟩ := List.forall_mem_cons.mp plain
    rw [ListQuery.addTerms] at run
    split at run
    · rename_i name value cut
      refine ih ?_ plain run
      have whole := Text.eq_append_of_cutFirst? cut
      have noMark := Text.forall_ne_of_cutFirst? cut
      have noComma : ∀ c, c ∈ name.toList ∨ c ∈ value.toList → c ≠ ',' := by
        intro c mem
        refine first c ?_
        rw [whole]
        simp only [String.toList_append, List.mem_append]
        exact mem.elim (fun mem => .inl (.inl mem)) .inr
      intro other wanted found
      -- A term replaces the value that an earlier term gave to its name.
      by_cases same : other = Text.trim name
      · rw [same, SortedMap.get?_insert_self] at found
        cases found
        rw [same]
        refine ⟨fun c mem => ?_, fun mem => noComma ',' (.inr (mem_of_mem_trim mem)) rfl⟩
        have mem := mem_of_mem_trim mem
        exact ⟨noMark c mem, noComma c (.inl mem)⟩
      · rw [SortedMap.get?_insert_of_ne _ same] at found
        exact selectable other wanted found
    · cases run

/-- What a query asks for: its labels are those of its terms, and its kind is an extension. -/
theorem labels_of_toFilter {query : ListQuery} {filter : Filter}
    (accepted : query.toFilter = .ok filter) :
    ListQuery.addTerms .empty (ListQuery.terms (query.labels.getD "")) = .ok filter.labels ∧
      (filter.extensions.get? "kind").bind Json.string? = query.kind := by
  rcases added : ListQuery.addTerms .empty (ListQuery.terms (query.labels.getD "")) with _ | labels
  · rw [ListQuery.toFilter, added] at accepted
    cases accepted
  · rw [ListQuery.toFilter, added] at accepted
    cases accepted
    refine ⟨rfl, ?_⟩
    dsimp only
    cases query.kind with
    | none => rfl
    | some word => rfl

theorem selectable_of_toFilter {query : ListQuery} {filter : Filter}
    (accepted : query.toFilter = .ok filter) : Selectable filter.labels := by
  have nothing : Selectable .empty := nofun
  refine nothing.addTerms (fun term mem => ?_) (labels_of_toFilter accepted).1
  exact Text.forall_ne_of_mem_piecesAt (List.mem_filter.mp mem).1

/-! What the cluster selects. -/

/-- The terms of the selector for some labels. -/
def selectorTerms (labels : Labels) : List String :=
  labels.toList.map fun (name, value) => name ++ "=" ++ value

namespace Selectable

variable {labels : Labels} (selectable : Selectable labels)

include selectable

theorem piecesAt_joinWith (given : labels.isEmpty = false) :
    (Text.piecesAt ',' (Text.joinWith "," (selectorTerms labels))).filter (fun term => !term.isEmpty) =
      selectorTerms labels := by
  have plain : ∀ term ∈ selectorTerms labels, ',' ∉ term.toList := by
    intro term mem
    obtain ⟨⟨name, value⟩, stored, rfl⟩ := List.mem_map.mp mem
    obtain ⟨inName, inValue⟩ := selectable name value (SortedMap.mem_toList_iff.mp stored)
    simp only [String.toList_append, List.mem_append, not_or]
    exact ⟨⟨fun mem => (inName ',' mem).2 rfl, by decide⟩, inValue⟩
  have read : Text.piecesAt ',' (Text.joinWith "," (selectorTerms labels)) = selectorTerms labels := by
    refine Text.piecesAt_joinWith ?_ plain
    simpa [selectorTerms, SortedMap.isEmpty] using given
  rw [read]
  refine List.filter_eq_self.mpr fun term mem => ?_
  obtain ⟨pair, -, rfl⟩ := List.mem_map.mp mem
  simp [Store.pair_isEmpty]

theorem all_termMatches (actual : Labels) :
    (selectorTerms labels).all (Store.termMatches actual) = labelsMatch actual labels := by
  rw [selectorTerms, labelsMatch, List.all_map, Bool.eq_iff_iff, List.all_eq_true, List.all_eq_true]
  refine forall₂_congr fun pair mem => ?_
  obtain ⟨name, value⟩ := pair
  obtain ⟨inName, -⟩ := selectable name value (SortedMap.mem_toList_iff.mp mem)
  rw [Function.comp_apply, Store.termMatches_pair fun mark => (inName '=' mark).1 rfl]

/-- The selector for some labels matches the objects that have these labels. -/
theorem selectorMatches (object : Json) :
    Store.selectorMatches (labelSelector labels) object = labelsMatch (labelsOf object) labels := by
  rcases empty : labels.isEmpty with _ | _
  · rw [labelSelector, if_neg (by simp [empty])]
    change ((Text.piecesAt ',' (Text.joinWith "," (selectorTerms labels))).filter _).all _ = _
    rw [selectable.piecesAt_joinWith empty, selectable.all_termMatches]
  · have nothing : labels.toList = [] := by simpa [SortedMap.isEmpty] using empty
    rw [labelSelector, if_pos empty]
    simp [Store.selectorMatches, labelsMatch, nothing]

end Selectable

/-- What is listed for some labels is what has them among all that is listed. -/
theorem Collection.deployments_labelSelector (collection : Collection) (now : Time.Instant)
    (store : Store) {labels : Labels} (selectable : Selectable labels) :
    collection.deployments now store (labelSelector labels) =
      (collection.deployments now store none).filter fun d => labelsMatch d.labels labels := by
  have picks (object : Json) : Store.selectorMatches (labelSelector labels) object =
      labelsMatch (collection.read now object).labels labels := by
    rw [collection.labels_read, selectable.selectorMatches]
  have every (objects : List Json) : objects.filter (Store.selectorMatches none) = objects :=
    List.filter_eq_self.mpr fun _ _ => rfl
  simp only [deployments, Store.list, every, List.filter_map, Function.comp_def, ← picks]

/-! Pages of a filter. -/

/-- The filter for all deployments of the kind that another filter asks for. -/
def Filter.ofKind (filter : Filter) : Filter :=
  { Filter.everything with extensions := filter.extensions }

theorem finishDeployments_ofKind (items : List Deployment) (filter : Filter) (selected : Bool) :
    finishDeployments items filter.ofKind selected = items.mergeSort deploymentNotAfter :=
  finishDeployments_everything items selected

theorem Settings.Lists.ofKind {settings : Settings} {filter : Filter}
    {collections : List Collection} (lists : settings.Lists filter collections) :
    settings.Lists filter.ofKind collections := by
  cases lists with
  | argocd home => exact .argocd home filter.ofKind
  | crossplane composite => exact .crossplane composite filter.ofKind
  | flux home wanted => exact .flux home wanted

/-- The kinds of reconciled objects that a query asks for are known if the kind that it names is. -/
theorem wantedKinds_of_toFilter {query : ListQuery} {filter : Filter}
    (accepted : query.toFilter = .ok filter)
    (known : ∀ word ∈ query.kind, (Flux.FluxKind.ofWord? word).isSome) :
    ∃ kinds, Flux.OnCluster.wantedKinds filter = .ok kinds := by
  rw [Flux.OnCluster.wantedKinds, (labels_of_toFilter accepted).2]
  rcases asked : query.kind with _ | word
  · exact ⟨_, rfl⟩
  · obtain ⟨kind, found⟩ := Option.isSome_iff_exists.mp (known word asked)
    exact ⟨[kind], by simp only [found]⟩

/-- What the cluster selects for a query is what its filter picks from all deployments: the listing for the
query is the page of its filter made from the listing of everything, and the selector that is sent matches
the objects that have every label asked for. -/
theorem listDeployments_eq_finish {settings : Settings}
    (inCluster : settings.kind ∈ [.argocd, .crossplane, .flux]) {query : ListQuery} {filter : Filter}
    (accepted : query.toFilter = .ok filter)
    (known : settings.kind = .flux →
      ∀ word ∈ query.kind, (Flux.FluxKind.ofWord? word).isSome)
    (now : Time.Instant) (memory : Memory) :
    ∃ all,
      ((settings.operations now).listDeployments filter.ofKind).runInMemory now memory =
        (.ok all, memory) ∧
      ((settings.operations now).listDeployments filter).runInMemory now memory =
        (.ok (finishDeployments all filter false), memory) ∧
      ∀ object, Store.selectorMatches (labelSelector filter.labels) object = true ↔
        ∀ name value, filter.labels.get? name = some value →
          (labelsOf object).get? name = some value := by
  obtain ⟨collections, lists⟩ := Settings.exists_lists inCluster filter fun flux =>
    wantedKinds_of_toFilter accepted (known flux)
  have selectable := selectable_of_toFilter accepted
  have every := lists.ofKind.listDeployments now memory
  rw [finishDeployments_ofKind] at every
  refine ⟨_, every, ?_, fun object => ?_⟩
  · rw [lists.listDeployments now memory, finishDeployments_mergeSort, ← finishDeployments_selected,
      List.filter_flatMap]
    simp only [Collection.deployments_labelSelector _ now memory.cluster selectable]
    rfl
  · rw [selectable.selectorMatches, labelsMatch_iff]

/-- A query with blanks, an empty term, a value with an equals sign, an empty value, and a label that stands
twice. -/
def labelledQuery : ListQuery where
  «namespace» := none
  status := none
  labels := some "app=db, app = web ,,args=a=b,tier="
  kind := some "HelmRelease"
  limit := 1
  offset := 0

/-- The filter of this query. -/
def labelledFilter : Filter where
  «namespace» := none
  status := none
  labels := .ofList [("app", "web"), ("args", "a=b"), ("tier", "")]
  extensions := .ofList [("kind", .string "HelmRelease")]
  limit := 1
  offset := 0

/-- A helm release that has the labels asked for, and one that has not. -/
def labelledMemory : Memory where
  cluster := (Store.empty.seed Flux.helmReleaseKind (.ofPairs [("metadata", .ofPairs [
    ("name", .string "web"), ("namespace", .string "flux-system"),
    ("labels", .ofPairs [("app", .string "web"), ("args", .string "a=b"),
      ("tier", .string "")])])])).seed Flux.helmReleaseKind (.ofPairs [("metadata", .ofPairs [
    ("name", .string "api"), ("namespace", .string "flux-system"),
    ("labels", .ofPairs [("app", .string "web"), ("tier", .string "")])])])
  releases := .empty

theorem listDeployments_eq_finish_labelled :
    labelledQuery.toFilter = .ok labelledFilter ∧
    ∃ all,
      (((Settings.flux "flux-system").operations ⟨1, 0⟩).listDeployments
        labelledFilter.ofKind).runInMemory ⟨1, 0⟩ labelledMemory = (.ok all, labelledMemory) ∧
      (((Settings.flux "flux-system").operations ⟨1, 0⟩).listDeployments
        labelledFilter).runInMemory ⟨1, 0⟩ labelledMemory =
          (.ok (finishDeployments all labelledFilter false), labelledMemory) ∧
      ∀ object, Store.selectorMatches (labelSelector labelledFilter.labels) object = true ↔
        ∀ name value, labelledFilter.labels.get? name = some value →
          (labelsOf object).get? name = some value := by
  have terms : ListQuery.terms "app=db, app = web ,,args=a=b,tier=" =
      ["app=db", " app = web ", "args=a=b", "tier="] := by decide +kernel
  have accepted : labelledQuery.toFilter = .ok labelledFilter := by
    simp only [ListQuery.toFilter, labelledQuery, Option.getD_some, terms]
    rfl
  have known : ∀ word ∈ labelledQuery.kind, (Flux.FluxKind.ofWord? word).isSome := by
    rintro _ ⟨⟩
    decide
  have inCluster : (Settings.flux "flux-system").kind ∈ [.argocd, .crossplane, .flux] := by decide
  exact ⟨accepted, listDeployments_eq_finish inCluster accepted (fun _ => known) ⟨1, 0⟩
    labelledMemory⟩

end DeploymentGateway
