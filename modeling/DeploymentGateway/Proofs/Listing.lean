import Mathlib.Data.String.Basic
import DeploymentGateway.Listing
/-!
What listings keep of what was found. Sorting is stable, so items that sort alike stay in the order in which
they were found: what a test picks can be picked before the sorting or after it, and of the items that share
an id a listing has the one that a search from the front finds first.
-/

set_option autoImplicit false

namespace DeploymentGateway.Listing

section

variable {α : Type} {le : α → α → Bool} {p : α → Bool} {items : List α}

private theorem parts_eq {q : α → Bool} {first rest first' rest' : List α}
    (whole : first ++ rest = first' ++ rest') (hfirst : ∀ a ∈ first, q a = true)
    (hrest : ∀ a ∈ rest, q a = false) (hfirst' : ∀ a ∈ first', q a = true)
    (hrest' : ∀ a ∈ rest', q a = false) : first = first' ∧ rest = rest' := by
  have front (xs ys : List α) (hxs : ∀ a ∈ xs, q a = true) (hys : ∀ a ∈ ys, q a = false) :
      (xs ++ ys).filter q = xs := by
    rw [List.filter_append, List.filter_eq_self.mpr hxs,
      List.filter_eq_nil_iff.mpr fun a mem => by simp [hys a mem], List.append_nil]
  have same : first = first' := by
    rw [← front first rest hfirst hrest, whole, front first' rest' hfirst' hrest']
  subst same
  exact ⟨rfl, List.append_cancel_left whole⟩

section

variable (trans : ∀ a b c, le a b = true → le b c = true → le a c = true)
  (total : ∀ a b, (le a b || le b a) = true)

include trans total

/-- To sort what a test picks is to pick from what is sorted. -/
theorem mergeSort_filter (p : α → Bool) (items : List α) :
    (items.filter p).mergeSort le = (items.mergeSort le).filter p := by
  induction items with
  | nil => simp
  | cons a items ih =>
    obtain ⟨first, rest, with_a, without, before⟩ := List.mergeSort_cons trans total a items
    rcases picked : p a with _ | _
    · rw [List.filter_cons_of_neg (by simp [picked]), ih, with_a, without, List.filter_append,
        List.filter_append, List.filter_cons_of_neg (by simp [picked])]
    · rw [List.filter_cons_of_pos picked, with_a, List.filter_append,
        List.filter_cons_of_pos picked]
      obtain ⟨first', rest', with_a', without', before'⟩ :=
        List.mergeSort_cons trans total a (items.filter p)
      -- The head goes after all items that are below it, and before all that it sorts alike with.
      have after {l r whole : List α} (eq : whole.mergeSort le = l ++ a :: r) :
          ∀ b ∈ r, (!le a b) = false := by
        have sorted := List.pairwise_mergeSort trans total whole
        rw [eq] at sorted
        intro b mem
        simpa using List.rel_of_pairwise_cons (List.pairwise_append.mp sorted).2.1 mem
      have whole : first' ++ rest' = first.filter p ++ rest.filter p := by
        rw [← without', ih, without, List.filter_append]
      obtain ⟨rfl, rfl⟩ := parts_eq whole before' (after with_a')
        (fun b mem => before b (List.mem_filter.mp mem).1)
        (fun b mem => after with_a b (List.mem_filter.mp mem).1)
      exact with_a'

/-- Of items that sort alike a search finds the same one before and after the sorting. -/
theorem find?_mergeSort (alike : ∀ a b, p a = true → p b = true → le a b = true) :
    (items.mergeSort le).find? p = items.find? p := by
  rw [← List.head?_filter, ← mergeSort_filter trans total, List.mergeSort_of_pairwise,
    List.head?_filter]
  refine List.pairwise_of_forall_mem_list fun a ha b hb => ?_
  exact alike a b (List.mem_filter.mp ha).2 (List.mem_filter.mp hb).2

end

/-! Without limits a page is the whole listing. -/

@[simp]
theorem paginate_zero (items : List α) : paginate items 0 0 = items := by
  simp [paginate]

end

/-! Deployments in the order of their namespaces and ids. -/

theorem deploymentNotAfter_iff {a b : Deployment} : deploymentNotAfter a b = true ↔
    if a.namespace = b.namespace then a.id ≤ b.id else a.namespace ≤ b.namespace := by
  simp only [deploymentNotAfter, beq_iff_eq]
  split <;> simp

theorem deploymentNotAfter_trans (a b c : Deployment) (hab : deploymentNotAfter a b = true)
    (hbc : deploymentNotAfter b c = true) : deploymentNotAfter a c = true := by
  rw [deploymentNotAfter_iff] at *
  by_cases ab : a.namespace = b.namespace
  · rw [if_pos ab] at hab
    rw [ab]
    split at hbc
    · rename_i bc
      rw [if_pos bc]
      exact String.le_trans hab hbc
    · rename_i bc
      rw [if_neg bc]
      exact hbc
  · rw [if_neg ab] at hab
    by_cases bc : b.namespace = c.namespace
    · rw [← bc, if_neg ab]
      exact hab
    · rw [if_neg bc] at hbc
      rw [if_neg]
      · exact String.le_trans hab hbc
      · intro ac
        exact ab (String.le_antisymm hab (ac ▸ hbc))

theorem deploymentNotAfter_total (a b : Deployment) :
    (deploymentNotAfter a b || deploymentNotAfter b a) = true := by
  rw [Bool.or_eq_true, deploymentNotAfter_iff, deploymentNotAfter_iff]
  by_cases same : a.namespace = b.namespace
  · rw [if_pos same, if_pos same.symm]
    exact String.le_total a.id b.id
  · rw [if_neg same, if_neg (Ne.symm same)]
    exact String.le_total a.namespace b.namespace

theorem labelsMatch_iff {actual wanted : Labels} : labelsMatch actual wanted = true ↔
    ∀ name value, wanted.get? name = some value → actual.get? name = some value := by
  simp only [labelsMatch, List.all_eq_true, beq_iff_eq, Prod.forall, SortedMap.mem_toList_iff]

theorem finishDeployments_everything (items : List Deployment) (selected : Bool) :
    finishDeployments items .everything selected = items.mergeSort deploymentNotAfter := by
  have all : items.filter (admits .everything selected) = items :=
    List.filter_eq_self.mpr fun _ _ => by simp [admits, Filter.everything, labelsMatch, SortedMap.empty]
  rw [finishDeployments, all]
  exact paginate_zero _

/-- A page can be made from all deployments in their order. -/
theorem finishDeployments_mergeSort (items : List Deployment) (filter : Filter) (selected : Bool) :
    finishDeployments (items.mergeSort deploymentNotAfter) filter selected =
      finishDeployments items filter selected := by
  have sorted : (items.mergeSort deploymentNotAfter).Pairwise
      fun a b => deploymentNotAfter a b = true :=
    List.pairwise_mergeSort deploymentNotAfter_trans deploymentNotAfter_total items
  rw [finishDeployments, finishDeployments,
    List.mergeSort_of_pairwise (sorted.sublist List.filter_sublist),
    mergeSort_filter deploymentNotAfter_trans deploymentNotAfter_total]

/-- A page of what has the labels asked for already is the page of all deployments. -/
theorem finishDeployments_selected (items : List Deployment) (filter : Filter) :
    finishDeployments (items.filter fun d => labelsMatch d.labels filter.labels) filter true =
      finishDeployments items filter false := by
  rw [finishDeployments, finishDeployments, List.filter_filter]
  congr 2
  refine List.filter_congr fun d _ => ?_
  simp [admits]

/-! Packages, each id once. -/

theorem mem_of_mem_dropRepeated {p : Package} {items : List Package}
    (mem : p ∈ dropRepeated items) : p ∈ items := by
  fun_induction dropRepeated items with
  | case1 => cases mem
  | case2 q => exact mem
  | case3 q r rest same ih =>
    rcases List.mem_cons.mp (ih mem) with rfl | mem
    · exact List.mem_cons_self
    · exact List.mem_cons_of_mem _ (List.mem_cons_of_mem _ mem)
  | case4 q r rest differ ih =>
    rcases List.mem_cons.mp mem with rfl | mem
    · exact List.mem_cons_self
    · exact List.mem_cons_of_mem _ (ih mem)

theorem dropRepeated_increasing {items : List Package}
    (sorted : items.Pairwise fun p q => p.id ≤ q.id) :
    (dropRepeated items).Pairwise fun p q => p.id < q.id := by
  fun_induction dropRepeated items with
  | case1 => exact .nil
  | case2 p => exact List.pairwise_singleton _ _
  | case3 p q rest same ih =>
    exact ih (sorted.sublist (.cons_cons p (List.sublist_cons_self q rest)))
  | case4 p q rest differ ih =>
    obtain ⟨first, sorted⟩ := List.pairwise_cons.mp sorted
    refine List.pairwise_cons.mpr ⟨fun r mem => ?_, ih sorted⟩
    have below : p.id < q.id := Std.lt_of_le_of_ne (first q List.mem_cons_self) differ
    rcases List.mem_cons.mp (mem_of_mem_dropRepeated mem) with rfl | later
    · exact below
    · exact Std.lt_of_lt_of_le below (List.rel_of_pairwise_cons sorted later)

/-- What is left for an id is the first package that had it. -/
theorem find?_dropRepeated (items : List Package) (id : String) :
    (dropRepeated items).find? (fun p => p.id == id) = items.find? fun p => p.id == id := by
  fun_induction dropRepeated items with
  | case1 => rfl
  | case2 p => rfl
  | case3 p q rest same ih =>
    -- The two packages have one id, so a search that stops stops at the first of them.
    rw [ih, List.find?_cons, List.find?_cons, List.find?_cons, ← same]
    cases p.id == id <;> rfl
  | case4 p q rest differ ih =>
    rw [List.find?_cons, ih]
    rfl

theorem finishPackages_everything (items : List Package) :
    finishPackages items .everything = dropRepeated (items.mergeSort fun p q => p.id ≤ q.id) :=
  paginate_zero _

private theorem package_trans (p q r : Package) (hpq : decide (p.id ≤ q.id) = true)
    (hqr : decide (q.id ≤ r.id) = true) : decide (p.id ≤ r.id) = true :=
  decide_eq_true (String.le_trans (of_decide_eq_true hpq) (of_decide_eq_true hqr))

private theorem package_total (p q : Package) :
    (decide (p.id ≤ q.id) || decide (q.id ≤ p.id)) = true := by
  simpa using String.le_total p.id q.id

theorem finishPackages_increasing (items : List Package) :
    (finishPackages items .everything).Pairwise fun p q => p.id < q.id := by
  rw [finishPackages_everything]
  exact dropRepeated_increasing <|
    (List.pairwise_mergeSort package_trans package_total items).imp of_decide_eq_true

/-- The package that is listed for an id is the first one that was found with it. -/
theorem find?_finishPackages (items : List Package) (id : String) :
    (finishPackages items .everything).find? (fun p => p.id == id) =
      items.find? fun p => p.id == id := by
  rw [finishPackages_everything, find?_dropRepeated, find?_mergeSort package_trans package_total]
  intro p q hp hq
  have hp : p.id = id := by simpa using hp
  have hq : q.id = id := by simpa using hq
  rw [hp, hq]
  exact decide_eq_true (String.le_refl id)

theorem mem_ids_finishPackages {items : List Package} {id : String} :
    id ∈ (finishPackages items .everything).map Package.id ↔ id ∈ items.map Package.id := by
  have searched (packages : List Package) : id ∈ packages.map Package.id ↔
      (packages.find? fun p => p.id == id).isSome := by
    simp [List.find?_isSome]
  rw [searched, searched, find?_finishPackages]

end DeploymentGateway.Listing
