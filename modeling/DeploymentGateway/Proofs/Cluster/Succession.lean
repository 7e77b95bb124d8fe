import DeploymentGateway.Proofs.Cluster.Edit
import DeploymentGateway.Proofs.Cluster.Reachable
/-!
What an object that was read is worth after the writes of others. Versions are never given twice, so an
update that carries the version of an object is taken exactly as long as that object is in place.
-/

set_option autoImplicit false

namespace DeploymentGateway.Cluster

/-! What a version is worth. -/

namespace Stamped

variable {object : Json} {m n : Nat}

theorem version (h : Stamped object n) : object.stringAt versionPath = Text.decimal n := by
  obtain ⟨base, rfl⟩ := h
  exact Json.stringAt_set_self _ _ _

theorem unique (h : Stamped object m) (h' : Stamped object n) : m = n :=
  Text.decimal_injective (h.version.symm.trans h'.version)

end Stamped

/-- An object with its version blanked out. -/
def blanked (object : Json) : Json :=
  object.set .null versionPath

@[simp]
theorem blanked_set (object version : Json) :
    blanked (object.set version versionPath) = blanked object :=
  Json.set_set _ _ _ _

theorem Stamped.eq_set_blanked {object : Json} {n : Nat} (h : Stamped object n) :
    object = (blanked object).set (.string (Text.decimal n)) versionPath := by
  obtain ⟨base, rfl⟩ := h
  rw [blanked, Json.set_set, Json.set_set]

theorem Unversioned.read_blanked {β : Type} {read : Json → β} (unversioned : Unversioned read)
    {object : Json} {n : Nat} (stamped : Stamped object n) : read (blanked object) = read object := by
  obtain ⟨base, rfl⟩ := stamped
  rw [blanked_set]
  exact unversioned base .null _

namespace Edits

variable {change : Json → Outcome Json} (edits : Edits change) {object changed : Json} {n : Nat}
  (stamped : Stamped object n) (run : change object = .ok changed)

include edits stamped run

theorem stamped_of_ok : Stamped changed n := by
  obtain ⟨base, rfl⟩ := stamped
  have again := edits.blind base (.string (Text.decimal n)) (.string (Text.decimal n))
  rw [run] at again
  exact ⟨changed, Except.ok.inj again⟩

/-- A change does the same to two objects that differ in their versions alone. -/
theorem congr_blanked {other : Json} {m : Nat} (stamped' : Stamped other m)
    (same : blanked object = blanked other) :
    ∃ changed', change other = .ok changed' ∧ Stamped changed' m ∧
      blanked changed = blanked changed' := by
  rw [stamped.eq_set_blanked] at run
  have again := edits.blind (blanked object) (.string (Text.decimal n)) (.string (Text.decimal m))
  rw [run, same, ← stamped'.eq_set_blanked] at again
  exact ⟨_, again, ⟨changed, rfl⟩, (blanked_set _ _).symm⟩

end Edits

namespace Store

theorem blanked_succeeding {current current' object object' : Json} {m n : Nat}
    (stamped : Stamped current m) (stamped' : Stamped current' n)
    (currents : blanked current = blanked current') (objects : blanked object = blanked object') :
    blanked (succeeding current object) = blanked (succeeding current' object') := by
  have read : Unversioned fun object => object.intAt generationPath :=
    Unversioned.intAt (by simp)
  have generations : current.intAt generationPath = current'.intAt generationPath := by
    calc current.intAt generationPath = (blanked current).intAt generationPath :=
          (read.read_blanked stamped).symm
      _ = (blanked current').intAt generationPath := by rw [currents]
      _ = current'.intAt generationPath := read.read_blanked stamped'
  have commuted (generation object : Json) :
      blanked (object.set generation generationPath) =
        (blanked object).set generation generationPath :=
    Json.set_comm (by simp) _ _ _
  rw [succeeding, succeeding, commuted, commuted, objects, generations]

/-! What one call to the cluster leaves of a store, as far as other callers can tell. -/

/-- A store follows another one: whatever is new in it has a fresh version, and only at one key may an
object have come or gone. -/
structure Follows (target : ObjectKey) (store after : Store) : Prop where
  versions : store.versions ≤ after.versions
  objects : ∀ key current, after.objects.get? key = some current →
    store.objects.get? key = some current ∨ ∃ n, store.versions < n ∧ Stamped current n
  absent : ∀ key, key ≠ target →
    (after.objects.get? key = none ↔ store.objects.get? key = none)
  rejectedUpdates : after.rejectedUpdates = store.rejectedUpdates

variable {target : ObjectKey} {store after : Store}

theorem Follows.refl (target : ObjectKey) (store : Store) : Follows target store store :=
  ⟨le_rfl, fun _ _ stored => .inl stored, fun _ _ => Iff.rfl, rfl⟩

theorem follows_write {key : ObjectKey} (object : Json)
    (allowed : key ≠ target → store.objects.get? key ≠ none) :
    Follows target store (store.write key object).2 where
  versions := Nat.le_succ _
  objects other current stored := by
    rcases store.get?_write_cases stored with ⟨-, rfl⟩ | old
    · exact .inr ⟨store.versions + 1, Nat.lt_succ_self _, stamped_written store object⟩
    · exact .inl old
  absent other away := by
    rw [write_objects]
    by_cases same : other = key
    · subst same
      rw [SortedMap.get?_insert_self]
      exact ⟨nofun, fun absent => absurd absent (allowed away)⟩
    · rw [SortedMap.get?_insert_of_ne _ same]
  rejectedUpdates := rfl

theorem follows_create (store : Store) (now : Time.Instant) (kind : ResourceKind)
    («namespace» : String) (object : Json) :
    Follows (key kind «namespace» (nameOf object)) store
      (store.create now kind «namespace» object).2 := by
  rcases store.create_cases now kind «namespace» object with ⟨error, run⟩ | ⟨-, -, run⟩
  · rw [run]
    exact Follows.refl _ store
  · rw [run]
    exact follows_write _ fun away => absurd rfl away

theorem follows_delete (store : Store) (kind : ResourceKind) («namespace» name : String) :
    Follows (key kind «namespace» name) store (store.delete kind «namespace» name).2 := by
  rcases store.delete_cases kind «namespace» name with ⟨error, run⟩ | run
  · rw [run]
    exact Follows.refl _ store
  · rw [run]
    refine ⟨le_rfl, fun other current stored => .inl ?_, fun other away => ?_, rfl⟩
    · exact SortedMap.get?_of_get?_erase stored
    · rw [SortedMap.get?_erase_of_ne _ away]

/-! What is known of an object that was read. -/

/-- An object as it was read: if an object with its number is in place now, then that is the object. -/
structure Held (store : Store) (key : ObjectKey) (object : Json) (n : Nat) : Prop where
  stamped : Stamped object n
  given : n ≤ store.versions
  named : nameOf object = key.name
  same : ∀ current, store.objects.get? key = some current → Stamped current n → current = object

/-- No object with the number is in place, nor will be. -/
structure Gone (store : Store) (key : ObjectKey) (n : Nat) : Prop where
  given : n ≤ store.versions
  gone : ∀ current, store.objects.get? key = some current → ¬ Stamped current n

/-- Whatever is in place under its name can be held. -/
theorem Sound.held_of_named (sound : Sound store) {key : ObjectKey} {object : Json}
    (stored : store.objects.get? key = some object) (named : nameOf object = key.name) :
    ∃ n, Held store key object n := by
  obtain ⟨n, given, stamped⟩ := sound.stamped key object stored
  refine ⟨n, stamped, given, named, fun current stored' _ => ?_⟩
  exact Option.some.inj (stored'.symm.trans stored)

theorem Sound.held (sound : Sound store) {key : ObjectKey} {object : Json}
    (stored : store.objects.get? key = some object) (nonempty : key.name ≠ "") :
    ∃ n, Held store key object n :=
  sound.held_of_named stored (sound.named key object stored nonempty)

theorem Held.follows {key : ObjectKey} {object : Json} {n : Nat} (held : Held store key object n)
    (h : Follows target store after) : Held after key object n where
  stamped := held.stamped
  given := held.given.trans h.versions
  named := held.named
  same current stored stamped := by
    -- A newer object has a number above all that were given out when this one was read.
    rcases h.objects key current stored with old | ⟨m, fresh, stamped'⟩
    · exact held.same current old stamped
    · have same := stamped.unique stamped'
      have given := held.given
      omega

theorem Gone.follows {key : ObjectKey} {n : Nat} (gone : Gone store key n)
    (h : Follows target store after) : Gone after key n where
  given := gone.given.trans h.versions
  gone current stored stamped := by
    rcases h.objects key current stored with old | ⟨m, fresh, stamped'⟩
    · exact gone.gone current old stamped
    · have same := stamped.unique stamped'
      have given := gone.given
      omega

/-- A write puts an end to the version that was in place. -/
theorem gone_write {key : ObjectKey} {n : Nat} (given : n ≤ store.versions) (object : Json) :
    Gone (store.write key object).2 key n where
  given := given.trans (Nat.le_succ _)
  gone current stored stamped := by
    rw [write_objects, SortedMap.get?_insert_self] at stored
    cases stored
    have same := stamped.unique (stamped_written store object)
    omega

theorem gone_of_absent {key : ObjectKey} {n : Nat} (given : n ≤ store.versions)
    (absent : store.objects.get? key = none) : Gone store key n where
  given
  gone current stored := by
    rw [absent] at stored
    cases stored

/-- An update that carries the version of an object that was read is refused, or that object is still in
place and is replaced. -/
theorem Held.update_cases_of_version {kind : ResourceKind} {«namespace» name : String}
    {object changed : Json} {n : Nat} (held : Held store (key kind «namespace» name) object n)
    (named : nameOf changed = name)
    (version : changed.stringAt versionPath = object.stringAt versionPath) (sound : Sound store) :
    (∃ error, store.update kind «namespace» changed = (.error error, store)) ∨
      store.object? kind «namespace» name = some object ∧
        kind.plural ∉ store.rejectedUpdates ∧
        store.update kind «namespace» changed =
          (.ok (store.written (succeeding object changed)),
            (store.write (key kind «namespace» name) (succeeding object changed)).2) := by
  subst named
  rcases store.update_cases kind «namespace» changed with
    refused | ⟨current, found, accepted, carried, run⟩
  · exact .inl refused
  · right
    -- What is in place has the version that was sent, and so is what was read.
    obtain ⟨m, -, stamped'⟩ := sound.stamped _ current found
    rw [version, held.stamped.version] at carried
    have sent : Text.decimal n = current.stringAt versionPath :=
      carried.resolve_left (Text.decimal_ne_empty n)
    have same : m = n := Text.decimal_injective (stamped'.version.symm.trans sent.symm)
    have still : current = object := held.same current found (same ▸ stamped')
    exact ⟨still ▸ found, accepted, still ▸ run⟩

theorem Held.update_cases {kind : ResourceKind} {«namespace» name : String} {object changed : Json}
    {n : Nat} (held : Held store (key kind «namespace» name) object n)
    (named : nameOf changed = name) (stamped : Stamped changed n) (sound : Sound store) :
    (∃ error, store.update kind «namespace» changed = (.error error, store)) ∨
      store.object? kind «namespace» name = some object ∧
        kind.plural ∉ store.rejectedUpdates ∧
        store.update kind «namespace» changed =
          (.ok (store.written (succeeding object changed)),
            (store.write (key kind «namespace» name) (succeeding object changed)).2) :=
  held.update_cases_of_version named (stamped.version.trans held.stamped.version.symm) sound

theorem Gone.update_refused {kind : ResourceKind} {«namespace» name : String}
    {object changed : Json} {n : Nat} (gone : Gone store (key kind «namespace» name) n)
    (held : Held store (key kind «namespace» name) object n)
    (named : nameOf changed = name) (stamped : Stamped changed n) (sound : Sound store) :
    ∃ error, store.update kind «namespace» changed = (.error error, store) := by
  rcases held.update_cases named stamped sound with refused | ⟨stored, -, -⟩
  · exact refused
  · exact absurd held.stamped (gone.gone object stored)

/-! Two stores that a caller who does not look at versions cannot tell apart at one key. -/

/-- Two stores have the same object at a key, but for its version; elsewhere they have objects under
the same keys. -/
structure Mirrors (target : ObjectKey) (store other : Store) : Prop where
  object : (store.objects.get? target).map blanked = (other.objects.get? target).map blanked
  absent : ∀ key, key ≠ target →
    (store.objects.get? key = none ↔ other.objects.get? key = none)
  rejectedUpdates : store.rejectedUpdates = other.rejectedUpdates

namespace Mirrors

variable {other : Store} (mirrors : Mirrors target store other)

theorem refl (target : ObjectKey) (store : Store) : Mirrors target store store :=
  ⟨rfl, fun _ _ => Iff.rfl, rfl⟩

include mirrors

theorem absent_target : store.objects.get? target = none ↔ other.objects.get? target = none := by
  rw [← Option.map_eq_none_iff (f := blanked), mirrors.object, Option.map_eq_none_iff]

theorem follows (h : Follows target store after)
    (same : after.objects.get? target = store.objects.get? target) :
    Mirrors target after other where
  object := by rw [same, mirrors.object]
  absent key away := (h.absent key away).trans (mirrors.absent key away)
  rejectedUpdates := h.rejectedUpdates.trans mirrors.rejectedUpdates

theorem write {object object' : Json} (same : blanked object = blanked object') :
    Mirrors target (store.write target object).2 (other.write target object').2 where
  object := by
    rw [write_objects, write_objects, SortedMap.get?_insert_self, SortedMap.get?_insert_self]
    simp only [Option.map_some, written, blanked_set, same]
  absent key away := by
    rw [write_objects, write_objects, SortedMap.get?_insert_of_ne _ away,
      SortedMap.get?_insert_of_ne _ away]
    exact mirrors.absent key away
  rejectedUpdates := mirrors.rejectedUpdates

theorem erase : Mirrors target { store with objects := store.objects.erase target }
    { other with objects := other.objects.erase target } where
  object := by
    simp only [SortedMap.get?_erase_self]
  absent key away := by
    simp only [SortedMap.get?_erase_of_ne _ away]
    exact mirrors.absent key away
  rejectedUpdates := mirrors.rejectedUpdates

end Mirrors

end Store

end DeploymentGateway.Cluster
