import DeploymentGateway.Proofs.Listing
import Mathlib.Data.List.Nodup
/-!
Pages of deployments. All pages of a filter are cut from one listing: what the filter lets pass, in the order of
namespaces and ids. Pages of one size, taken one after the other, make up that listing, and where no two
deployments share namespace and id it does not matter in which order they were found.
-/

set_option autoImplicit false

namespace DeploymentGateway.Listing

/-- A filter lets a deployment pass. An empty namespace asks for nothing, and labels count where the back end
has not selected by them already. -/
structure Passes (filter : Filter) (labelsSelected : Bool) (d : Deployment) : Prop where
  «namespace» : ∀ wanted ∈ filter.namespace, wanted = "" ∨ d.namespace = wanted
  status : ∀ wanted ∈ filter.status, d.status = wanted
  labels : labelsSelected = false → ∀ name value, filter.labels.get? name = some value →
    d.labels.get? name = some value

theorem admits_iff {filter : Filter} {labelsSelected : Bool} {d : Deployment} :
    admits filter labelsSelected d = true ↔ Passes filter labelsSelected d := by
  have labels : (labelsSelected || labelsMatch d.labels filter.labels) = true ↔
      (labelsSelected = false → ∀ name value, filter.labels.get? name = some value →
        d.labels.get? name = some value) := by
    rw [← labelsMatch_iff]
    cases labelsSelected <;> simp
  rw [admits, Bool.and_eq_true, Bool.and_eq_true, labels]
  constructor
  · rintro ⟨⟨space, status⟩, labels⟩
    refine ⟨fun wanted asked => ?_, fun wanted asked => ?_, labels⟩
    · rw [Option.mem_def.mp asked] at space
      simpa using space
    · rw [Option.mem_def.mp asked] at status
      simpa using status
  · intro passes
    refine ⟨⟨?_, ?_⟩, passes.labels⟩
    · rcases asked : filter.namespace with _ | wanted
      · rfl
      · simpa using passes.namespace wanted asked
    · rcases asked : filter.status with _ | wanted
      · rfl
      · simpa using passes.status wanted asked

instance (filter : Filter) (labelsSelected : Bool) : DecidablePred (Passes filter labelsSelected) :=
  fun _ => decidable_of_iff _ admits_iff

/-- The order of a listing: by namespace, and within a namespace by id. -/
def NotAfter (a b : Deployment) : Prop :=
  a.namespace < b.namespace ∨ a.namespace = b.namespace ∧ a.id ≤ b.id

theorem deploymentNotAfter_iff_notAfter {a b : Deployment} :
    deploymentNotAfter a b = true ↔ NotAfter a b := by
  rw [deploymentNotAfter_iff, NotAfter]
  by_cases same : a.namespace = b.namespace
  · simp [same]
  · simp only [same, if_false, false_and, or_false]
    exact ⟨fun le => lt_of_le_of_ne le same, le_of_lt⟩

theorem NotAfter.antisymm {a b : Deployment} (ab : NotAfter a b) (ba : NotAfter b a) :
    (a.namespace, a.id) = (b.namespace, b.id) := by
  rcases ab with before | ⟨same, le⟩
  · rcases ba with after | ⟨same, -⟩
    · exact absurd after (lt_asymm before)
    · exact absurd before (same ▸ lt_irrefl _)
  · rcases ba with after | ⟨-, ge⟩
    · exact absurd after (same ▸ lt_irrefl _)
    · rw [same, le_antisymm le ge]

/-- All that a filter lets pass, in order. -/
def inOrder (items : List Deployment) (filter : Filter) (labelsSelected : Bool) : List Deployment :=
  (items.filter (admits filter labelsSelected)).mergeSort deploymentNotAfter

section

variable (items : List Deployment) (filter : Filter) (labelsSelected : Bool)

theorem inOrder_perm : (inOrder items filter labelsSelected).Perm
    (items.filter fun d => Passes filter labelsSelected d) := by
  have same : (fun d => decide (Passes filter labelsSelected d)) = admits filter labelsSelected := by
    funext d
    rw [Bool.eq_iff_iff, decide_eq_true_iff, admits_iff]
  rw [same]
  exact List.mergeSort_perm _ _

theorem inOrder_sorted : (inOrder items filter labelsSelected).Pairwise NotAfter :=
  (List.pairwise_mergeSort deploymentNotAfter_trans deploymentNotAfter_total _).imp
    deploymentNotAfter_iff_notAfter.mp

/-- Deployments that differ in namespace or id have one order, in whatever order they are found. -/
theorem inOrder_of_perm {items others : List Deployment} (same : others.Perm items)
    (distinct : (items.map fun d => (d.namespace, d.id)).Nodup) :
    inOrder others filter labelsSelected = inOrder items filter labelsSelected := by
  have found (d : Deployment) (mem : d ∈ inOrder items filter labelsSelected) : d ∈ items :=
    (List.mem_filter.mp ((inOrder_perm items filter labelsSelected).mem_iff.mp mem)).1
  have perm : (inOrder others filter labelsSelected).Perm (inOrder items filter labelsSelected) :=
    ((inOrder_perm others filter labelsSelected).trans (same.filter _)).trans
      (inOrder_perm items filter labelsSelected).symm
  refine perm.eq_of_pairwise (fun a b memA memB ab ba => ?_)
    (inOrder_sorted others filter labelsSelected) (inOrder_sorted items filter labelsSelected)
  exact List.inj_on_of_nodup_map distinct (found a (perm.mem_iff.mp memA)) (found b memB)
    (ab.antisymm ba)

end

/-! Pages of one size. -/

/-- The first so many windows of a list, one after the other, are its beginning. -/
private theorem flatMap_windows {α : Type} (items : List α) (size count : Nat) :
    (List.range count).flatMap (fun k => (items.drop (k * size)).take size) =
      items.take (count * size) := by
  induction count with
  | zero => simp
  | succ count ih =>
    rw [List.range_succ, List.flatMap_append, ih, List.flatMap_singleton, Nat.succ_mul, List.take_add]

/-- The number of pages of a size that a listing of a length fills, the last one perhaps in part. -/
def pageCount (length size : Nat) : Nat :=
  (length + size - 1) / size

theorem le_pageCount_mul {size : Nat} (positive : 0 < size) (length : Nat) :
    length ≤ pageCount length size * size := by
  have divided := Nat.div_add_mod (length + size - 1) size
  have small := Nat.mod_lt (length + size - 1) positive
  rw [pageCount, Nat.mul_comm]
  omega

/-- Every page but an empty one begins within the listing. -/
theorem mul_lt_of_lt_pageCount {length size k : Nat} (positive : 0 < size)
    (before : k < pageCount length size) : k * size < length := by
  have below := (Nat.le_div_iff_mul_le positive).mp (Nat.succ_le_of_lt before)
  rw [Nat.succ_mul] at below
  omega

/-- A page of a filter: at most so many deployments from an offset on, where none means no limit. -/
def page (items : List Deployment) (filter : Filter) (labelsSelected : Bool) (limit offset : UInt64) :
    List Deployment :=
  finishDeployments items { filter with limit, offset } labelsSelected

section

variable (items : List Deployment) (filter : Filter) (labelsSelected : Bool) {limit : UInt64}

private theorem page_eq (offset : UInt64) : page items filter labelsSelected limit offset =
    paginate (inOrder items filter labelsSelected) limit offset :=
  rfl

private theorem page_zero (offset : UInt64) : page items filter labelsSelected 0 offset =
    (inOrder items filter labelsSelected).drop offset.toNat := by
  rw [page_eq, paginate, if_pos rfl]

private theorem page_of_ne_zero (limited : limit ≠ 0) (offset : UInt64) :
    page items filter labelsSelected limit offset =
      ((inOrder items filter labelsSelected).drop offset.toNat).take limit.toNat := by
  rw [page_eq, paginate, if_neg limited]

/-- Pages of one size whose offsets can be told, one after the other, are the beginning of the listing. -/
private theorem flatMap_pages (limited : limit ≠ 0) {count : Nat}
    (told : ∀ k < count, k * limit.toNat < UInt64.size) :
    (List.range count).flatMap
        (fun k => page items filter labelsSelected limit (.ofNat (k * limit.toNat))) =
      (inOrder items filter labelsSelected).take (count * limit.toNat) := by
  rw [← flatMap_windows]
  refine List.flatMap_congr fun k mem => ?_
  rw [page_of_ne_zero items filter labelsSelected limited,
    UInt64.toNat_ofNat_of_lt' (told k (List.mem_range.mp mem))]

private theorem toNat_pos_of_ne_zero (limited : limit ≠ 0) : 0 < limit.toNat :=
  Nat.pos_of_ne_zero fun zero => limited (UInt64.toNat_inj.mp zero)

/-- All pages of a filter are cut from one listing: all that it lets pass, as often as it was found, in order.
Pages of one size are its windows, so that one after the other they make it up; no limit gives all that is left
from an offset on. Where no two deployments share namespace and id, it does not matter in which order they
were found. -/
theorem pages_partition (items : List Deployment) (filter : Filter) (labelsSelected : Bool) :
    ∃ all : List Deployment,
      all.Perm (items.filter fun d => Passes filter labelsSelected d) ∧
      all.Pairwise NotAfter ∧
      (∀ limit offset : UInt64, limit ≠ 0 → page items filter labelsSelected limit offset =
        (all.drop offset.toNat).take limit.toNat) ∧
      (∀ offset : UInt64, page items filter labelsSelected 0 offset = all.drop offset.toNat) ∧
      (∀ limit offset : UInt64, all.length ≤ offset.toNat →
        page items filter labelsSelected limit offset = []) ∧
      (∀ (limit : UInt64) (count : Nat), limit ≠ 0 →
        (∀ k < count, k * limit.toNat < UInt64.size) →
        (List.range count).flatMap
            (fun k => page items filter labelsSelected limit (.ofNat (k * limit.toNat))) =
          all.take (count * limit.toNat)) ∧
      (∀ limit : UInt64, limit ≠ 0 → all.length < UInt64.size →
        (List.range (pageCount all.length limit.toNat)).flatMap
            (fun k => page items filter labelsSelected limit (.ofNat (k * limit.toNat))) = all) ∧
      ((items.map fun d => (d.namespace, d.id)).Nodup →
        ∀ others : List Deployment, others.Perm items → ∀ limit offset : UInt64,
          page others filter labelsSelected limit offset =
            page items filter labelsSelected limit offset) := by
  refine ⟨inOrder items filter labelsSelected, inOrder_perm items filter labelsSelected,
    inOrder_sorted items filter labelsSelected,
    fun limit offset limited => page_of_ne_zero items filter labelsSelected limited offset,
    page_zero items filter labelsSelected, fun limit offset past => ?past,
    fun limit count limited told => flatMap_pages items filter labelsSelected limited told,
    fun limit limited counted => ?whole, fun distinct others same limit offset => ?permuted⟩
  case past =>
    by_cases limited : limit = 0
    · rw [limited, page_zero, List.drop_of_length_le past]
    · rw [page_of_ne_zero items filter labelsSelected limited, List.drop_of_length_le past, List.take_nil]
  case whole =>
    have positive := toNat_pos_of_ne_zero limited
    rw [flatMap_pages items filter labelsSelected limited fun k before =>
      (mul_lt_of_lt_pageCount positive before).trans counted]
    exact List.take_of_length_le (le_pageCount_mul positive _)
  case permuted =>
    rw [page_eq, page_eq, inOrder_of_perm filter labelsSelected same distinct]

end

def deployed (space id : String) : Deployment :=
  { id, name := id, packageId := "", «namespace» := space, status := .deployed, version := 1, description := "",
    createdAt := default, updatedAt := default, labels := .empty, extensions := .empty }

/-- Three deployments on two pages, found in two orders. -/
theorem pages_of_three :
    let found := [deployed "team" "b", deployed "team" "a", deployed "edge" "b"]
    page found .everything false 2 0 ++ page found .everything false 2 2 =
        page found .everything false 0 0 ∧
      page found.reverse .everything false 2 0 = page found .everything false 2 0 := by
  intro found
  obtain ⟨all, same, -, -, unlimited, -, -, whole, unordered⟩ := pages_partition found .everything false
  have three : all.length = 3 := same.length_eq.trans (by decide)
  have pages := whole 2 (by decide) (three ▸ by decide)
  have two : pageCount all.length (2 : UInt64).toNat = 2 := by rw [three]; rfl
  constructor
  · rw [unlimited 0]
    rw [two] at pages
    exact Eq.trans (by simp [List.range_succ]) pages
  · exact unordered (by decide) found.reverse found.reverse_perm 2 0

end DeploymentGateway.Listing
