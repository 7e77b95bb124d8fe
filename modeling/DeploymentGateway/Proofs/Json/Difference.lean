import DeploymentGateway.Proofs.Json.Path
/-!
Where two values differ. What is removed from a value is gone, and everything beside it reads as
before. Values are the same but for some places if no path that stays outside of those places tells
one from the other; writing or removing inside a place makes no other difference.
-/

set_option autoImplicit false

namespace DeploymentGateway.Json

theorem lookup_append (value : Json) (p q : Path) :
    value.lookup (p ++ q) = (value.lookup p).bind fun below => below.lookup q := by
  induction p generalizing value with
  | nil => rfl
  | cons segment p ih =>
    cases found : value.child? segment with
    | none => simp [lookup, found]
    | some below => simp [lookup, found, ih]

/-- Names do not lead through an array. -/
theorem lookup_append_of_array {value : Json} {path rest : Path} {items : List Json}
    (array : value.lookup path = some (.array items)) (further : rest ≠ [])
    (names : ∀ segment ∈ rest, Text.readNatural? greatestIndex segment = none) :
    value.lookup (path ++ rest) = none := by
  obtain ⟨segment, more, rfl⟩ := List.exists_cons_of_ne_nil further
  rw [lookup_append, array, Option.bind_some, lookup,
    child?_of_name (names segment List.mem_cons_self)]
  rfl

/-- There is an object at a path. -/
def HasObject (value : Json) (path : Path) : Prop :=
  ∃ fields, value.lookup path = some (.object fields)

/-- What a write goes through is an object then. -/
theorem hasObject_set {above path : Path} (onWay : above <+: path) (ne : above ≠ path)
    (value new : Json) : (value.set new path).HasObject above := by
  induction above generalizing value path with
  | nil =>
    cases path with
    | nil => exact absurd rfl ne
    | cons segment rest => exact ⟨_, rfl⟩
  | cons segment above ih =>
    obtain ⟨rest, rfl⟩ := onWay
    have further : above ≠ above ++ rest := fun same => ne (congrArg (segment :: ·) same)
    obtain ⟨fields, found⟩ := ih ⟨rest, rfl⟩ further
      ((Fields.get? segment value.writableFields).getD .null)
    exact ⟨fields, by simp [lookup, child?_set, found]⟩

/-! What is left after something was removed. -/

theorem remove_eq_of_none {value : Json} {path : Path} (nothing : (value.remove path).2 = none) :
    (value.remove path).1 = value := by
  unfold remove at nothing ⊢
  grind

/-- A removal from an object leaves an object. -/
theorem remove_object (fields : List (String × Json)) (path : Path) :
    ∃ left, ((Json.object fields).remove path).1 = .object left := by
  rcases path with _ | ⟨segment, _ | ⟨next, rest⟩⟩
  · exact ⟨fields, rfl⟩
  · rcases found : Fields.get? segment fields with _ | old <;> simp [remove, found]
  · rcases found : Fields.get? segment fields with _ | below
    · simp [remove, found]
    · rcases run : below.remove (next :: rest) with ⟨changed, _ | old⟩ <;> simp [remove, found, run]

/-- Fields beside the way of a removal stay as they are. -/
theorem child?_remove_of_ne {segment other : String} (ne : other ≠ segment) (value : Json)
    (rest : Path) : (value.remove (segment :: rest)).1.child? other = value.child? other := by
  unfold remove
  split
  · rfl
  · rename_i only
    obtain ⟨rfl, rfl⟩ := List.cons.inj only
    split
    · split
      · exact Fields.get?_erase_of_ne ne _
      · rfl
    · rfl
  · rename_i whole
    obtain ⟨rfl, rfl⟩ := List.cons.inj whole
    split
    · split
      · split
        · exact Fields.get?_insert_of_ne ne _ _
        · rfl
      · rfl
    · rfl

theorem child?_remove_singleton (fields : List (String × Json)) (segment : String) :
    ((Json.object fields).remove [segment]).1.child? segment = none := by
  rcases found : Fields.get? segment fields with _ | old
  · simp [remove, found, child?]
  · simp [remove, found, child?, Fields.get?_erase_self]

/-- A removal further down takes place below the first field on its way. -/
theorem child?_remove_self (fields : List (String × Json)) (segment : String) {rest : Path}
    (further : rest ≠ []) :
    ((Json.object fields).remove (segment :: rest)).1.child? segment =
      (Fields.get? segment fields).map fun below => (below.remove rest).1 := by
  rcases found : Fields.get? segment fields with _ | below
  · cases rest <;> simp [remove, found, child?]
  obtain ⟨next, rest, rfl⟩ := List.exists_cons_of_ne_nil further
  rcases run : below.remove (next :: rest) with ⟨changed, _ | old⟩
  · have nothing : (below.remove (next :: rest)).2 = none := by rw [run]
    have kept : changed = below := by simpa [run] using remove_eq_of_none nothing
    simp [remove, found, run, child?, kept]
  · simp [remove, found, run, child?, Fields.get?_insert_self]

/-- A read beside a removal gives what it gave before. -/
theorem lookup_remove_of_diverges {p q : Path} (h : Path.Diverges p q) (value : Json) :
    (value.remove p).1.lookup q = value.lookup q := by
  induction p generalizing value q with
  | nil => exact absurd h (Path.not_diverges_nil q)
  | cons a p ih =>
    cases q with
    | nil => exact absurd h (Path.not_diverges_nil_right _)
    | cons b q =>
      by_cases same : b = a
      · subst same
        have below : Path.Diverges p q := by simpa using h
        have further : p ≠ [] := fun e => Path.not_diverges_nil q (e ▸ below)
        cases value with
        | object fields =>
          rw [lookup, lookup, child?_remove_self fields b further, child?]
          rcases Fields.get? b fields with _ | under
          · rfl
          · exact ih below under
        | null | bool _ | number _ | string _ | array _ => cases p <;> rfl
      · rw [lookup, lookup, child?_remove_of_ne same]

/-- What a removal goes through stays an object. -/
theorem hasObject_remove {above path : Path} (onWay : above <+: path) (ne : above ≠ path)
    {value : Json} (stands : value.HasObject above) : (value.remove path).1.HasObject above := by
  induction above generalizing value path with
  | nil =>
    obtain ⟨fields, found⟩ := stands
    cases found
    obtain ⟨left, run⟩ := remove_object fields path
    exact ⟨left, congrArg some run⟩
  | cons segment above ih =>
    obtain ⟨rest, rfl⟩ := onWay
    have further : above ≠ above ++ rest := fun same => ne (congrArg (segment :: ·) same)
    have nonempty : above ++ rest ≠ [] := fun empty => further (by simp_all)
    cases value with
    | object fields =>
      obtain ⟨below, found, under⟩ := Option.bind_eq_some_iff.mp stands.choose_spec
      obtain ⟨left, kept⟩ := ih ⟨rest, rfl⟩ further ⟨_, under⟩
      have first : Fields.get? segment fields = some below := found
      refine ⟨left, ?_⟩
      rw [List.cons_append, lookup, child?_remove_self fields segment nonempty, first,
        Option.map_some, Option.bind_some, kept]
    | null | bool _ | number _ | string _ | array _ =>
      obtain ⟨next, more, whole⟩ := List.exists_cons_of_ne_nil nonempty
      rw [List.cons_append, whole]
      exact stands

/-- What was removed is gone. A name that is no index leads nowhere but into an object. -/
theorem lookup_remove_self {path : Path} (ne : path ≠ [])
    (names : ∀ segment ∈ path, Text.readNatural? greatestIndex segment = none) (value : Json) :
    (value.remove path).1.lookup path = none := by
  induction path generalizing value with
  | nil => exact absurd rfl ne
  | cons segment rest ih =>
    cases value with
    | object fields =>
      by_cases last : rest = []
      · subst last
        rw [lookup, child?_remove_singleton, Option.bind_none]
      rw [lookup, child?_remove_self fields segment last]
      rcases Fields.get? segment fields with _ | below
      · rfl
      · exact ih last (fun name mem => names name (List.mem_cons_of_mem _ mem)) below
    | array items =>
      have whole : ((Json.array items).remove (segment :: rest)).1 = .array items := by
        cases rest <;> rfl
      rw [whole, lookup, child?, names segment List.mem_cons_self]
      rfl
    | null | bool _ | number _ | string _ => cases rest <;> rfl

/-! Differences at some places only. -/

/-- Two values are the same but for what stands at some places: where a path does not lead into any of
these, both have the same, or both have an object, whose fields then have longer paths. -/
def SameBut (places : List Path) (a b : Json) : Prop :=
  ∀ path, (∀ place ∈ places, ¬ place <+: path) →
    a.lookup path = b.lookup path ∨ a.HasObject path ∧ b.HasObject path

/-- Everything that stands above some places is an object. -/
def HasPlaces (places : List Path) (value : Json) : Prop :=
  ∀ place ∈ places, ∀ above, above <+: place → above ≠ place → value.HasObject above

namespace SameBut

variable {places : List Path} {a b c : Json} {place : Path}

theorem trans (first : SameBut places a b) (second : SameBut places b c) : SameBut places a c := by
  intro path outside
  rcases first path outside with same | ⟨left, middle⟩
  · rcases second path outside with same' | ⟨middle, right⟩
    · exact .inl (same.trans same')
    · exact .inr ⟨by rwa [HasObject, same], right⟩
  · rcases second path outside with same' | ⟨-, right⟩
    · exact .inr ⟨left, by rwa [HasObject, ← same']⟩
    · exact .inr ⟨left, right⟩

/-- A place at which both values read alike makes no difference. -/
theorem drop (same : SameBut (place :: places) a b) (alike : a.lookup place = b.lookup place) :
    SameBut places a b := by
  intro path outside
  by_cases inside : place <+: path
  · obtain ⟨rest, rfl⟩ := inside
    left
    rw [lookup_append, lookup_append, alike]
  · refine same path fun other mem => ?_
    rcases List.mem_cons.mp mem with rfl | mem
    · exact inside
    · exact outside other mem

/-- A path outside of the places that is not on the way to one of them runs beside each of them. -/
private theorem diverges_of_outside {path : Path} (outside : ¬ place <+: path)
    (offWay : ¬ path <+: place) (rest : Path) : Path.Diverges (place ++ rest) path := by
  refine ⟨fun onWay => outside ((List.prefix_append place rest).trans onWay), fun inside => ?_⟩
  rcases List.prefix_or_prefix_of_prefix inside (List.prefix_append place rest) with first | second
  · exact offWay first
  · exact outside second

/-- To write inside a place makes no difference outside. -/
theorem set (place : Path) (mem : place ∈ places) (stands : HasPlaces places a) (new : Json)
    (rest : Path) :
    SameBut places a (a.set new (place ++ rest)) := by
  intro path outside
  by_cases onWay : path <+: place
  · have ne : path ≠ place := fun same => outside place mem (same ▸ List.prefix_rfl)
    have further : path ≠ place ++ rest := fun same =>
      outside place mem (same ▸ List.prefix_append place rest)
    exact .inr ⟨stands place mem path onWay ne,
      hasObject_set (onWay.trans (List.prefix_append _ _)) further _ _⟩
  · have apart := diverges_of_outside (outside place mem) onWay rest
    refine .inl (lookup_set_of_diverges apart a new fun above items toPlace toPath array => ?_).symm
    -- What both paths go through stands above the place, so it is no array.
    rcases List.prefix_or_prefix_of_prefix toPlace (List.prefix_append place rest) with short | long
    · have ne : above ≠ place := fun same => outside place mem (same ▸ toPath)
      obtain ⟨fields, object⟩ := stands place mem above short ne
      rw [array] at object
      cases object
    · exact outside place mem (long.trans toPath)

/-- To remove a place makes no difference outside. -/
theorem remove (place : Path) (mem : place ∈ places) (stands : HasPlaces places a) :
    SameBut places a (a.remove place).1 := by
  intro path outside
  by_cases onWay : path <+: place
  · have ne : path ≠ place := fun same => outside place mem (same ▸ List.prefix_rfl)
    have above := stands place mem path onWay ne
    exact .inr ⟨above, hasObject_remove onWay ne above⟩
  · have apart := diverges_of_outside (outside place mem) onWay []
    rw [List.append_nil] at apart
    exact .inl (lookup_remove_of_diverges apart a).symm

/-- Places that do not contain each other stand where they stood. -/
theorem hasPlaces (same : SameBut places a b) (stands : HasPlaces places a)
    (apart : ∀ place ∈ places, ∀ other ∈ places, other <+: place → other = place) :
    HasPlaces places b := by
  intro place mem above onWay ne
  have outside : ∀ other ∈ places, ¬ other <+: above := by
    intro other mem' inside
    have whole := apart place mem other mem' (inside.trans onWay)
    subst whole
    exact ne (onWay.eq_of_length_le inside.length_le)
  rcases same above outside with alike | ⟨-, object⟩
  · rw [HasObject, ← alike]
    exact stands place mem above onWay ne
  · exact object

end SameBut

end DeploymentGateway.Json
