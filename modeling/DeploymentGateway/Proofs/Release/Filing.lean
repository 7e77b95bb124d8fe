import DeploymentGateway.Proofs.Release.Store
/-!
Releases filed under their namespace and name. Each history is that of the release it is kept for, so what
is listed names every release once; and a name finds its release just if no other namespace has the name.
-/

set_option autoImplicit false

namespace DeploymentGateway.Release.Store

/-- Where the last revisions that are listed say that they belong. -/
def places (store : Store) : List (String × String) :=
  (store.list none).map fun revision => (revision.namespace, revision.name)

/-- The namespaces that are listed for a name. -/
def namespaces (store : Store) (name : String) : List String :=
  ((store.list none).filter fun revision => revision.name == name).map fun revision =>
    revision.namespace

/-- No name is used in two namespaces. -/
def Unambiguous (store : Store) : Prop :=
  ∀ name home home', store.history? home name ≠ none → store.history? home' name ≠ none →
    home = home'

/-- What is in a history after one more revision was there before, or is that revision. -/
theorem mem_push_cases {store : Store} {next revision : ReleaseRevision} {home name : String}
    {history : List ReleaseRevision} (found : (store.push next).2.history? home name = some history)
    (mem : revision ∈ history) :
    (∃ earlier, store.history? home name = some earlier ∧
        ∃ older ∈ earlier, revision = older ∨ revision = supersede older) ∨
      home = next.namespace ∧ name = next.name ∧ revision = (store.push next).1 := by
  by_cases here : home = next.namespace ∧ name = next.name
  · obtain ⟨rfl, rfl⟩ := here
    rw [history?_push_self] at found
    cases found
    rcases List.mem_append.mp mem with old | new
    · left
      obtain ⟨older, before, rfl⟩ := List.mem_map.mp old
      rcases earlier : store.history? next.namespace next.name with _ | revisions
      · rw [earlier] at before
        cases before
      · rw [earlier] at before
        exact ⟨revisions, rfl, older, before, .inr rfl⟩
    · exact .inr ⟨rfl, rfl, List.mem_singleton.mp new⟩
  · left
    rw [history?_push_of_ne _ here] at found
    exact ⟨history, found, revision, mem, .inl rfl⟩

/-- After one more revision there is a history of its release, and else where there was one before. -/
theorem history?_push_ne_none_iff {store : Store} {next : ReleaseRevision} {home name : String} :
    (store.push next).2.history? home name ≠ none ↔
      home = next.namespace ∧ name = next.name ∨ store.history? home name ≠ none := by
  by_cases here : home = next.namespace ∧ name = next.name
  · obtain ⟨rfl, rfl⟩ := here
    rw [history?_push_self]
    simp
  · rw [history?_push_of_ne _ here]
    simp [here]

/-- Every history is that of the release it is kept for, and has a revision. -/
structure Filed (store : Store) : Prop where
  nonempty : ∀ home name history, store.history? home name = some history → history ≠ []
  own : ∀ home name history, store.history? home name = some history →
    ∀ revision ∈ history, revision.name = name ∧ revision.namespace = home

namespace Filed

variable {store : Store} (h : Filed store)

include h

theorem push (next : ReleaseRevision) : Filed (store.push next).2 where
  nonempty home name history found := by
    by_cases here : home = next.namespace ∧ name = next.name
    · obtain ⟨rfl, rfl⟩ := here
      rw [history?_push_self] at found
      cases found
      simp
    · rw [history?_push_of_ne _ here] at found
      exact h.nonempty home name history found
  own home name history found revision mem := by
    rcases mem_push_cases found mem with ⟨earlier, before, older, among, rfl | rfl⟩ | ⟨rfl, rfl, rfl⟩
    · exact h.own home name earlier before revision among
    · rw [supersede_name, supersede_namespace]
      exact h.own home name earlier before older among
    · exact ⟨rfl, rfl⟩

/-- A release without a last revision is not there. -/
theorem history?_eq_none_of_latest? {home name : String} (free : store.latest? home name = none) :
    store.history? home name = none := by
  rcases found : store.history? home name with _ | history
  · rfl
  · rw [latest?, found, Option.bind_some, List.getLast?_eq_none_iff] at free
    exact absurd free (h.nonempty home name history found)

/-- What is listed names every release, in the order in which they are kept. -/
theorem places_eq : store.places = store.releases.toList.map fun entry =>
    (entry.1.namespace, entry.1.name) := by
  rw [places, list, List.map_filterMap, ← List.filterMap_eq_map]
  refine List.filterMap_congr fun entry mem => ?_
  obtain ⟨⟨home, name⟩, history⟩ := entry
  have found : store.history? home name = some history := SortedMap.mem_toList_iff.mp mem
  have last := List.getLast?_eq_some_getLast (h.nonempty home name history found)
  obtain ⟨named, placed⟩ := h.own home name history found _ (List.mem_of_getLast? last)
  simp [last, named, placed]

theorem nodup_places : store.places.Nodup := by
  rw [h.places_eq]
  refine List.pairwise_map.mpr (store.releases.sorted.imp fun {a b} before same => ?_)
  have keys : a.1 = b.1 := by
    obtain ⟨⟨home, name⟩, history⟩ := a
    obtain ⟨⟨home', name'⟩, history'⟩ := b
    simpa using same
  exact OrderedKey.before_irrefl b.1 (keys ▸ before)

theorem mem_places_iff {home name : String} :
    (home, name) ∈ store.places ↔ store.history? home name ≠ none := by
  rw [h.places_eq]
  constructor
  · intro listed
    obtain ⟨⟨⟨space, other⟩, history⟩, mem, same⟩ := List.mem_map.mp listed
    obtain ⟨rfl, rfl⟩ : space = home ∧ other = name := by simpa using same
    have found : store.history? space other = some history := SortedMap.mem_toList_iff.mp mem
    rw [found]
    exact Option.some_ne_none history
  · intro there
    obtain ⟨history, found⟩ := Option.ne_none_iff_exists'.mp there
    exact List.mem_map.mpr ⟨⟨⟨home, name⟩, history⟩, SortedMap.mem_toList_iff.mpr found, rfl⟩

theorem mem_namespaces_iff {home name : String} :
    home ∈ store.namespaces name ↔ store.history? home name ≠ none := by
  rw [← h.mem_places_iff]
  simp [namespaces, places, and_assoc, and_comm, and_left_comm]

theorem nodup_namespaces (name : String) : (store.namespaces name).Nodup := by
  have each : (store.list none).Pairwise fun a b =>
      (a.namespace, a.name) ≠ (b.namespace, b.name) := List.pairwise_map.mp h.nodup_places
  refine List.pairwise_map.mpr ?_
  refine (each.filter _).imp_of_mem fun {a b} left right apart same => apart ?_
  have first : a.name = name := by simpa using (List.mem_filter.mp left).2
  have second : b.name = name := by simpa using (List.mem_filter.mp right).2
  rw [same, first, second]

/-- A name leads to one namespace just if no other one has a release of that name. -/
theorem namespaces_eq_singleton_iff {home name : String} :
    store.namespaces name = [home] ↔ store.history? home name ≠ none ∧
      ∀ home', store.history? home' name ≠ none → home' = home := by
  constructor
  · intro listed
    refine ⟨h.mem_namespaces_iff.mp (by rw [listed]; exact List.mem_singleton_self _), ?_⟩
    intro home' there
    have mem := h.mem_namespaces_iff.mpr there
    rw [listed] at mem
    exact List.mem_singleton.mp mem
  · rintro ⟨there, alone⟩
    have mem := h.mem_namespaces_iff.mpr there
    have nodup := h.nodup_namespaces name
    rcases listed : store.namespaces name with _ | ⟨first, _ | ⟨second, rest⟩⟩
    · rw [listed] at mem
      cases mem
    · rw [listed] at mem
      rw [List.mem_singleton.mp mem]
    · have one := alone first (h.mem_namespaces_iff.mp (by rw [listed]; simp))
      have other := alone second (h.mem_namespaces_iff.mp (by rw [listed]; simp))
      rw [listed, one, other] at nodup
      simp at nodup

/-- A name that is used in two namespaces leads to several. -/
theorem namespaces_of_ne {name home home' : String} (apart : home ≠ home')
    (there : store.history? home name ≠ none) (there' : store.history? home' name ≠ none) :
    ∃ first second rest, store.namespaces name = first :: second :: rest := by
  have mem := h.mem_namespaces_iff.mpr there
  have mem' := h.mem_namespaces_iff.mpr there'
  rcases listed : store.namespaces name with _ | ⟨first, _ | ⟨second, rest⟩⟩
  · rw [listed] at mem
    cases mem
  · rw [listed] at mem mem'
    exact absurd ((List.mem_singleton.mp mem).trans (List.mem_singleton.mp mem').symm) apart
  · exact ⟨first, second, rest, rfl⟩

/-- A revision whose name no other namespace uses leads its name to it. -/
theorem namespaces_push {next : ReleaseRevision}
    (alone : ∀ home, store.history? home next.name ≠ none → home = next.namespace) :
    (store.push next).2.namespaces next.name = [next.namespace] := by
  refine (h.push next).namespaces_eq_singleton_iff.mpr
    ⟨history?_push_ne_none_iff.mpr (.inl ⟨rfl, rfl⟩), fun home there => ?_⟩
  rcases history?_push_ne_none_iff.mp there with ⟨same, -⟩ | old
  · exact same
  · exact alone home old

/-- The names that are listed are distinct just if none is used in two namespaces. -/
theorem nodup_names_iff :
    ((store.list none).map fun revision => revision.name).Nodup ↔ Unambiguous store := by
  have names : ((store.list none).map fun revision => revision.name) =
      store.places.map Prod.snd := by
    simp [places]
  rw [names, List.nodup_map_iff_inj_on h.nodup_places]
  constructor
  · intro distinct name home home' there there'
    have same := distinct (home, name) (h.mem_places_iff.mpr there) (home', name)
      (h.mem_places_iff.mpr there') rfl
    exact congrArg Prod.fst same
  · rintro unambiguous ⟨home, name⟩ listed ⟨home', name'⟩ listed' same
    obtain rfl : name = name' := same
    rw [unambiguous name home home' (h.mem_places_iff.mp listed) (h.mem_places_iff.mp listed')]

end Filed

end DeploymentGateway.Release.Store
