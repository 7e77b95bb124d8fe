/-!
Maps with their entries in increasing order of the keys. The order is part of the type, so two maps
with the same look-ups are equal, and what is listed from a map is listed in the order of its keys.
Keys are compared through a list of texts.
-/

set_option autoImplicit false

namespace DeploymentGateway

/-- Keys that are told apart and ordered by a list of texts. -/
class OrderedKey (κ : Type) where
  parts : κ → List String
  parts_injective : ∀ a b, parts a = parts b → a = b

instance : OrderedKey String where
  parts s := [s]
  parts_injective _ _ h := by simpa using h

namespace OrderedKey

variable {κ : Type} [OrderedKey κ]

/-- The order of keys: the lexicographic order of their parts. -/
def Before (a b : κ) : Prop :=
  parts a < parts b

scoped instance (a b : κ) : Decidable (Before a b) :=
  inferInstanceAs (Decidable (parts a < parts b))

scoped instance : DecidableEq κ := fun a b =>
  if h : parts a = parts b then isTrue (parts_injective a b h)
  else isFalse fun e => h (by rw [e])

theorem before_irrefl (a : κ) : ¬ Before a a :=
  List.lt_irrefl _

theorem before_trans {a b c : κ} (h : Before a b) (k : Before b c) : Before a c :=
  List.lt_trans h k

theorem before_of_not_before {a b : κ} (ne : a ≠ b) (h : ¬ Before a b) : Before b a := by
  rcases Decidable.em (parts b < parts a) with k | k
  · exact k
  · exact absurd (parts_injective a b (List.le_antisymm (List.not_lt.mp k) (List.not_lt.mp h))) ne

end OrderedKey

open OrderedKey

/-- A map from keys to values, as its entries in increasing order of the keys. -/
structure SortedMap (κ α : Type) [OrderedKey κ] where
  toList : List (κ × α)
  sorted : toList.Pairwise fun a b => Before a.1 b.1

namespace SortedMap

variable {κ α β : Type} [OrderedKey κ]

/-- The map without entries. -/
def empty : SortedMap κ α :=
  ⟨[], List.Pairwise.nil⟩

instance : Inhabited (SortedMap κ α) := ⟨empty⟩

@[ext]
theorem ext {m n : SortedMap κ α} (h : m.toList = n.toList) : m = n := by
  cases m
  cases n
  simp_all

/-- The value of the first entry of a list with a key. -/
def lookup (key : κ) : List (κ × α) → Option α
  | [] => none
  | (k, a) :: rest => if k = key then some a else lookup key rest

/-- Set the entry of a key in a list with increasing keys. -/
def place (key : κ) (value : α) : List (κ × α) → List (κ × α)
  | [] => [(key, value)]
  | (k, a) :: rest =>
    if k = key then (key, value) :: rest
    else if Before key k then (key, value) :: (k, a) :: rest
    else (k, a) :: place key value rest

private theorem key_of_mem_place {key : κ} {value : α} {entry : κ × α} {l : List (κ × α)}
    (h : entry ∈ place key value l) : entry.1 = key ∨ entry ∈ l := by
  induction l with
  | nil => simp_all [place]
  | cons head rest ih =>
    obtain ⟨k, a⟩ := head
    unfold place at h
    split at h
    · rcases List.mem_cons.mp h with rfl | h
      · exact Or.inl rfl
      · exact Or.inr (List.mem_cons_of_mem _ h)
    · split at h
      · rcases List.mem_cons.mp h with rfl | h
        · exact Or.inl rfl
        · exact Or.inr h
      · rcases List.mem_cons.mp h with rfl | h
        · exact Or.inr (List.mem_cons_self ..)
        · rcases ih h with e | e
          · exact Or.inl e
          · exact Or.inr (List.mem_cons_of_mem _ e)

private theorem place_sorted (key : κ) (value : α) {l : List (κ × α)}
    (h : l.Pairwise fun a b => Before a.1 b.1) :
    (place key value l).Pairwise fun a b => Before a.1 b.1 := by
  induction l with
  | nil => simp [place]
  | cons head rest ih =>
    obtain ⟨k, a⟩ := head
    obtain ⟨first, tail⟩ := List.pairwise_cons.mp h
    unfold place
    split
    · rename_i same
      subst same
      exact List.pairwise_cons.mpr ⟨first, tail⟩
    · split
      · rename_i before
        refine List.pairwise_cons.mpr ⟨?_, h⟩
        intro entry mem
        rcases List.mem_cons.mp mem with rfl | mem
        · exact before
        · exact before_trans before (first entry mem)
      · rename_i ne before
        refine List.pairwise_cons.mpr ⟨?_, ih tail⟩
        intro entry mem
        rcases key_of_mem_place mem with e | mem
        · rw [e]
          exact before_of_not_before (fun e => ne e.symm) before
        · exact first entry mem

/-- The value at a key. -/
def get? (m : SortedMap κ α) (key : κ) : Option α :=
  lookup key m.toList

/-- Whether a key has a value. -/
def contains (m : SortedMap κ α) (key : κ) : Bool :=
  (m.get? key).isSome

/-- Set the value at a key. -/
def insert (m : SortedMap κ α) (key : κ) (value : α) : SortedMap κ α :=
  ⟨place key value m.toList, place_sorted key value m.sorted⟩

/-- Remove a key. -/
def erase (m : SortedMap κ α) (key : κ) : SortedMap κ α :=
  ⟨m.toList.filter fun entry => entry.1 ≠ key, m.sorted.filter _⟩

/-- The map of a list of pairs; of two pairs with one key the later counts. -/
def ofList (pairs : List (κ × α)) : SortedMap κ α :=
  pairs.foldl (fun m pair => m.insert pair.1 pair.2) empty

/-- The keys in increasing order. -/
def keys (m : SortedMap κ α) : List κ :=
  m.toList.map Prod.fst

/-- The values in the order of their keys. -/
def values (m : SortedMap κ α) : List α :=
  m.toList.map Prod.snd

/-- A map without entries. -/
def isEmpty (m : SortedMap κ α) : Bool :=
  m.toList.isEmpty

/-- The number of entries. -/
def size (m : SortedMap κ α) : Nat :=
  m.toList.length

/-- Set the entries of a second map in a first one. -/
def union (m n : SortedMap κ α) : SortedMap κ α :=
  n.toList.foldl (fun m entry => m.insert entry.1 entry.2) m

private theorem lookup_place_self (key : κ) (value : α) (l : List (κ × α)) :
    lookup key (place key value l) = some value := by
  induction l with
  | nil => simp [place, lookup]
  | cons head rest ih =>
    obtain ⟨k, a⟩ := head
    unfold place
    split
    · simp [lookup]
    · split
      · simp [lookup]
      · simp_all [lookup]

private theorem lookup_place_of_ne {key other : κ} (h : other ≠ key) (value : α)
    (l : List (κ × α)) : lookup other (place key value l) = lookup other l := by
  induction l with
  | nil => simp [place, lookup, Ne.symm h]
  | cons head rest ih =>
    obtain ⟨k, a⟩ := head
    unfold place
    split
    · rename_i same
      subst same
      simp [lookup, Ne.symm h]
    · split
      · simp [lookup, Ne.symm h]
      · simp [lookup, ih]

@[simp]
theorem get?_insert_self (m : SortedMap κ α) (key : κ) (value : α) :
    (m.insert key value).get? key = some value :=
  lookup_place_self key value m.toList

theorem get?_insert_of_ne (m : SortedMap κ α) {key other : κ} (h : other ≠ key) (value : α) :
    (m.insert key value).get? other = m.get? other :=
  lookup_place_of_ne h value m.toList

private theorem lookup_filter_self (key : κ) (l : List (κ × α)) :
    lookup key (l.filter fun entry => entry.1 ≠ key) = none := by
  induction l with
  | nil => rfl
  | cons head rest ih => by_cases h : head.1 = key <;> simp_all [lookup]

private theorem lookup_filter_of_ne {key other : κ} (h : other ≠ key) (l : List (κ × α)) :
    lookup other (l.filter fun entry => entry.1 ≠ key) = lookup other l := by
  induction l with
  | nil => rfl
  | cons head rest ih =>
    obtain ⟨k, a⟩ := head
    by_cases hk : k = key
    · subst hk
      have : k ≠ other := fun e => h e.symm
      simp_all [lookup]
    · by_cases ho : k = other <;> simp_all [lookup]

@[simp]
theorem get?_erase_self (m : SortedMap κ α) (key : κ) : (m.erase key).get? key = none :=
  lookup_filter_self key m.toList

theorem get?_erase_of_ne (m : SortedMap κ α) {key other : κ} (h : other ≠ key) :
    (m.erase key).get? other = m.get? other :=
  lookup_filter_of_ne h m.toList

/-- What is left after a removal was there before. -/
theorem get?_of_get?_erase {m : SortedMap κ α} {key other : κ} {value : α}
    (left : (m.erase key).get? other = some value) : m.get? other = some value := by
  by_cases same : other = key
  · rw [same, get?_erase_self] at left
    cases left
  · rwa [get?_erase_of_ne _ same] at left

private theorem lookup_eq_none_of_before {key : κ} {l : List (κ × α)}
    (h : ∀ entry ∈ l, Before key entry.1) : lookup key l = none := by
  induction l with
  | nil => rfl
  | cons head rest ih =>
    have ne : head.1 ≠ key := fun e => before_irrefl key (e ▸ h head (List.mem_cons_self ..))
    simp [lookup, ne, ih fun entry mem => h entry (List.mem_cons_of_mem _ mem)]

private theorem lookup_eq_none_of_before_head {key : κ} {head : κ × α} {rest : List (κ × α)}
    (before : Before key head.1) (h : (head :: rest).Pairwise fun a b => Before a.1 b.1) :
    lookup key (head :: rest) = none := by
  apply lookup_eq_none_of_before
  intro entry mem
  rcases List.mem_cons.mp mem with rfl | mem
  · exact before
  · exact before_trans before (List.rel_of_pairwise_cons h mem)

private theorem eq_of_lookup_eq {l r : List (κ × α)}
    (hl : l.Pairwise fun a b => Before a.1 b.1) (hr : r.Pairwise fun a b => Before a.1 b.1)
    (h : ∀ key, lookup key l = lookup key r) : l = r := by
  induction l generalizing r with
  | nil =>
    cases r with
    | nil => rfl
    | cons head rest => simpa [lookup] using h head.1
  | cons head rest ih =>
    cases r with
    | nil => simpa [lookup] using h head.1
    | cons head' rest' =>
      have same : head.1 = head'.1 := by
        by_cases e : head.1 = head'.1
        · exact e
        · exfalso
          rcases Decidable.em (Before head.1 head'.1) with b | b
          · have := h head.1
            rw [lookup_eq_none_of_before_head b hr] at this
            simp [lookup] at this
          · have := h head'.1
            rw [lookup_eq_none_of_before_head (before_of_not_before e b) hl] at this
            simp [lookup] at this
      obtain ⟨key, value⟩ := head
      obtain ⟨key', value'⟩ := head'
      obtain rfl : key = key' := same
      obtain rfl : value = value' := by simpa [lookup] using h key
      congr 1
      apply ih (List.Pairwise.of_cons hl) (List.Pairwise.of_cons hr)
      intro other
      by_cases e : key = other
      · subst e
        rw [lookup_eq_none_of_before fun entry => List.rel_of_pairwise_cons hl,
          lookup_eq_none_of_before fun entry => List.rel_of_pairwise_cons hr]
      · simpa [lookup, e] using h other

/-- Two maps with the same look-ups are equal. -/
theorem eq_of_get?_eq {m n : SortedMap κ α} (h : ∀ key, m.get? key = n.get? key) : m = n :=
  ext (eq_of_lookup_eq m.sorted n.sorted h)

private theorem mem_of_lookup {key : κ} {value : α} {l : List (κ × α)}
    (found : lookup key l = some value) : (key, value) ∈ l := by
  induction l with
  | nil => cases found
  | cons head rest ih =>
    obtain ⟨k, a⟩ := head
    by_cases same : k = key
    · subst same
      simp only [lookup, if_pos, Option.some.injEq] at found
      rw [found]
      exact List.mem_cons_self
    · simp only [lookup, if_neg same] at found
      exact List.mem_cons_of_mem _ (ih found)

private theorem lookup_of_mem {key : κ} {value : α} {l : List (κ × α)}
    (sorted : l.Pairwise fun a b => Before a.1 b.1) (mem : (key, value) ∈ l) :
    lookup key l = some value := by
  induction l with
  | nil => cases mem
  | cons head rest ih =>
    obtain ⟨k, a⟩ := head
    rcases List.mem_cons.mp mem with first | later
    · cases first
      simp [lookup]
    · have before : Before k key := List.rel_of_pairwise_cons sorted later
      have ne : k ≠ key := by
        rintro rfl
        exact before_irrefl k before
      simp only [lookup, if_neg ne]
      exact ih (List.Pairwise.of_cons sorted) later

/-- The entries of a map are what its look-ups find. -/
theorem mem_toList_iff {m : SortedMap κ α} {key : κ} {value : α} :
    (key, value) ∈ m.toList ↔ m.get? key = some value :=
  ⟨lookup_of_mem m.sorted, mem_of_lookup⟩

private theorem get?_foldl_insert {l : List (κ × α)} (sorted : l.Pairwise fun a b => Before a.1 b.1)
    (m : SortedMap κ α) (key : κ) :
    (l.foldl (fun m pair => m.insert pair.1 pair.2) m).get? key = (lookup key l).or (m.get? key) := by
  induction l generalizing m with
  | nil => rfl
  | cons head rest ih =>
    obtain ⟨k, a⟩ := head
    rw [List.foldl_cons, ih (List.Pairwise.of_cons sorted)]
    by_cases same : k = key
    · subst same
      rw [lookup_eq_none_of_before fun entry => List.rel_of_pairwise_cons sorted]
      simp [lookup]
    · rw [get?_insert_of_ne _ fun e => same e.symm]
      simp [lookup, same]

/-- A map is that of its entries. -/
theorem ofList_toList (m : SortedMap κ α) : ofList m.toList = m := by
  apply eq_of_get?_eq
  intro key
  rw [ofList, get?_foldl_insert m.sorted]
  exact Option.or_none

private theorem filterMap_place {f : κ × α → Option β} {key : κ} {value : α} {l : List (κ × α)}
    (sorted : l.Pairwise fun a b => Before a.1 b.1)
    (same : f (key, value) = (lookup key l).bind fun old => f (key, old)) :
    (place key value l).filterMap f = l.filterMap f := by
  induction l with
  | nil => simpa [place, lookup] using same
  | cons head rest ih =>
    obtain ⟨k, a⟩ := head
    unfold place
    split
    · rename_i here
      subst here
      have same : f (k, value) = f (k, a) := by simpa [lookup] using same
      rw [List.filterMap_cons, List.filterMap_cons, same]
    · rename_i ne
      split
      · rename_i before
        rw [lookup_eq_none_of_before_head before sorted] at same
        exact List.filterMap_cons_none same
      · have same : f (key, value) = (lookup key rest).bind fun old => f (key, old) := by
          simpa [lookup, ne] using same
        rw [List.filterMap_cons, List.filterMap_cons, ih (List.Pairwise.of_cons sorted) same]

/-- What is picked from the entries of a map does not change with an entry that counts as the one before,
or as none where there was none. -/
theorem filterMap_toList_insert {f : κ × α → Option β} {m : SortedMap κ α} {key : κ} {value : α}
    (same : f (key, value) = (m.get? key).bind fun old => f (key, old)) :
    (m.insert key value).toList.filterMap f = m.toList.filterMap f :=
  filterMap_place m.sorted same

/-- What looks away from a key finds the same entries when that key is removed. -/
theorem filter_toList_erase {p : κ × α → Bool} {m : SortedMap κ α} {key : κ}
    (away : ∀ value, m.get? key = some value → p (key, value) = false) :
    (m.erase key).toList.filter p = m.toList.filter p := by
  rw [erase, List.filter_filter]
  refine List.filter_congr fun entry mem => ?_
  by_cases here : entry.1 = key
  · have stored : m.get? key = some entry.2 := here ▸ mem_toList_iff.mp mem
    simp [← here, here ▸ away entry.2 stored]
  · simp [here]

/-- To remove a key that is not there gives the map back. -/
theorem erase_of_get?_eq_none {m : SortedMap κ α} {key : κ} (absent : m.get? key = none) :
    m.erase key = m := by
  apply eq_of_get?_eq
  intro other
  by_cases same : other = key
  · rw [same, get?_erase_self, absent]
  · rw [get?_erase_of_ne _ same]

/-- To remove a key that was just written is to remove what was there before. -/
theorem erase_insert (m : SortedMap κ α) (key : κ) (value : α) :
    (m.insert key value).erase key = m.erase key := by
  apply eq_of_get?_eq
  intro other
  by_cases same : other = key
  · rw [same, get?_erase_self, get?_erase_self]
  · rw [get?_erase_of_ne _ same, get?_erase_of_ne _ same, get?_insert_of_ne _ same]

/-- To remove a new key again gives the map back. -/
theorem erase_insert_of_get?_eq_none {m : SortedMap κ α} {key : κ} (absent : m.get? key = none)
    (value : α) : (m.insert key value).erase key = m :=
  (erase_insert m key value).trans (erase_of_get?_eq_none absent)

/-- To remove a key gives the map back just if it was not there. -/
theorem erase_eq_self_iff {m : SortedMap κ α} {key : κ} : m.erase key = m ↔ m.get? key = none := by
  refine ⟨fun same => ?_, erase_of_get?_eq_none⟩
  rw [← same, get?_erase_self]

end SortedMap

end DeploymentGateway
