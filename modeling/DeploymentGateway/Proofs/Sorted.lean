import DeploymentGateway.Sorted
import Mathlib.Data.String.Basic
/-!
Maps made of lists of pairs. Where no key stands twice in a list, the map of the list has the pairs of the
list for entries, each of them once and in the order of the keys.
-/

set_option autoImplicit false

namespace DeploymentGateway

open OrderedKey

theorem OrderedKey.before_string_iff {a b : String} : Before a b ↔ a < b := by
  show [a] < [b] ↔ a < b
  simp [List.cons_lt_cons_iff]

/-- What is filled with pairs one after the other, none of which stands for a key that has an entry, has the pairs
for entries at the end. -/
theorem foldl_perm {σ κ α : Type} (entries : σ → List (κ × α)) {put : σ → κ × α → σ}
    (new : ∀ m pair, (∀ entry ∈ entries m, entry.1 ≠ pair.1) → (entries (put m pair)).Perm (pair :: entries m))
    {pairs : List (κ × α)} (distinct : (pairs.map Prod.fst).Nodup) (m : σ)
    (apart : ∀ pair ∈ pairs, ∀ entry ∈ entries m, entry.1 ≠ pair.1) :
    (entries (pairs.foldl put m)).Perm (entries m ++ pairs) := by
  induction pairs generalizing m with
  | nil => simp
  | cons pair rest ih =>
    obtain ⟨fresh, later⟩ := List.nodup_cons.mp distinct
    have here := new m pair (apart pair List.mem_cons_self)
    have placed := ih later (put m pair) fun other mem entry old => by
      rcases List.mem_cons.mp (here.mem_iff.mp old) with rfl | old
      · exact fun same => fresh (same ▸ List.mem_map_of_mem mem)
      · exact apart other (List.mem_cons_of_mem _ mem) entry old
    calc entries (rest.foldl put (put m pair))
      _ |>.Perm (entries (put m pair) ++ rest) := placed
      _ |>.Perm ((pair :: entries m) ++ rest) := here.append_right rest
      _ |>.Perm (entries m ++ pair :: rest) := List.perm_middle.symm

namespace SortedMap

variable {κ α : Type} [OrderedKey κ]

private theorem place_perm {key : κ} {value : α} {l : List (κ × α)} (absent : ∀ entry ∈ l, entry.1 ≠ key) :
    (place key value l).Perm ((key, value) :: l) := by
  induction l with
  | nil => exact .refl _
  | cons head rest ih =>
    obtain ⟨k, a⟩ := head
    have other : k ≠ key := absent (k, a) List.mem_cons_self
    rw [place, if_neg other]
    split
    · exact .refl _
    · have later := ih fun entry mem => absent entry (List.mem_cons_of_mem _ mem)
      exact (later.cons (k, a)).trans (.swap _ _ _)

/-- Where no key stands twice, the entries are the pairs. -/
theorem toList_ofList_perm {pairs : List (κ × α)} (distinct : (pairs.map Prod.fst).Nodup) :
    (ofList pairs).toList.Perm pairs :=
  foldl_perm toList (fun _ _ => place_perm) distinct empty fun _ _ _ mem => absurd mem List.not_mem_nil

theorem get?_ofList_eq_some_iff {pairs : List (κ × α)} (distinct : (pairs.map Prod.fst).Nodup) {key : κ}
    {value : α} : (ofList pairs).get? key = some value ↔ (key, value) ∈ pairs := by
  rw [← mem_toList_iff, (toList_ofList_perm distinct).mem_iff]

private theorem perm_of_lookup {key : κ} {value : α} {l : List (κ × α)}
    (sorted : l.Pairwise fun a b => Before a.1 b.1) (found : lookup key l = some value) :
    l.Perm ((key, value) :: l.filter fun entry => entry.1 ≠ key) := by
  induction l with
  | nil => cases found
  | cons head rest ih =>
    obtain ⟨k, a⟩ := head
    obtain ⟨first, later⟩ := List.pairwise_cons.mp sorted
    by_cases here : k = key
    · subst here
      obtain rfl : a = value := by simpa [lookup] using found
      have others : rest.filter (fun entry => entry.1 ≠ k) = rest := by
        refine List.filter_eq_self.mpr fun entry mem => decide_eq_true fun same => ?_
        exact before_irrefl k (same ▸ first entry mem)
      rw [List.filter_cons_of_neg (by simp), others]
    · have found : lookup key rest = some value := by simpa [lookup, here] using found
      rw [List.filter_cons_of_pos (by simpa using here)]
      exact ((ih later found).cons (k, a)).trans (.swap _ _ _)

/-- An entry stands beside the other ones. -/
theorem toList_perm_of_get? {m : SortedMap κ α} {key : κ} {value : α} (found : m.get? key = some value) :
    m.toList.Perm ((key, value) :: (m.erase key).toList) :=
  perm_of_lookup m.sorted found

/-- How many entries there are of a sort, before and after one of them is removed. -/
theorem countP_of_get? {m : SortedMap κ α} {key : κ} {value : α} (found : m.get? key = some value)
    (p : κ × α → Bool) :
    m.toList.countP p = (m.erase key).toList.countP p + if p (key, value) then 1 else 0 := by
  rw [(toList_perm_of_get? found).countP_eq, List.countP_cons]

theorem countP_insert (m : SortedMap κ α) (key : κ) (value : α) (p : κ × α → Bool) :
    (m.insert key value).toList.countP p =
      (m.erase key).toList.countP p + if p (key, value) then 1 else 0 := by
  rw [countP_of_get? (get?_insert_self m key value), erase_insert]

/-- To write what is there already gives the map back. -/
theorem insert_of_get? {m : SortedMap κ α} {key : κ} {value : α} (found : m.get? key = some value) :
    m.insert key value = m := by
  apply eq_of_get?_eq
  intro other
  by_cases same : other = key
  · rw [same, get?_insert_self, found]
  · rw [get?_insert_of_ne _ same]

theorem insert_erase (m : SortedMap κ α) (key : κ) (value : α) :
    (m.erase key).insert key value = m.insert key value := by
  apply eq_of_get?_eq
  intro other
  by_cases same : other = key
  · rw [same, get?_insert_self, get?_insert_self]
  · rw [get?_insert_of_ne _ same, get?_insert_of_ne _ same, get?_erase_of_ne _ same]

/-- What is written last stays. -/
theorem insert_insert (m : SortedMap κ α) (key : κ) (first last : α) :
    (m.insert key first).insert key last = m.insert key last := by
  apply eq_of_get?_eq
  intro other
  by_cases same : other = key
  · rw [same, get?_insert_self, get?_insert_self]
  · rw [get?_insert_of_ne _ same, get?_insert_of_ne _ same, get?_insert_of_ne _ same]

end SortedMap

end DeploymentGateway
