import DeploymentGateway.Json.Path
import Mathlib.Data.String.Basic
/-!
Writing inside a value and reading from it again. A write is seen by a read at the same place, a second
write at a place replaces the first, and two places of which neither contains the other do not
disturb each other.
-/

set_option autoImplicit false

namespace DeploymentGateway

namespace Fields

variable {α : Type}

theorem insert_insert (name : String) (value old : α) (fields : List (String × α)) :
    insert name value (insert name old fields) = insert name value fields := by
  induction fields with
  | nil => simp [insert]
  | cons field rest ih =>
    obtain ⟨key, present⟩ := field
    by_cases same : key = name
    · simp [insert, same]
    · by_cases before : name < key
      · simp [insert, same, before]
      · simp [insert, same, before, ih]

private theorem insert_comm_of_lt {a b : String} (h : a < b) (x y : α)
    (fields : List (String × α)) :
    insert a x (insert b y fields) = insert b y (insert a x fields) := by
  have ne : a ≠ b := ne_of_lt h
  have not_after : ¬ b < a := lt_asymm h
  induction fields with
  | nil => simp [insert, ne, ne.symm, h, not_after]
  | cons field rest ih =>
    obtain ⟨key, present⟩ := field
    rcases lt_trichotomy a key with first | rfl | first
    · have away : key ≠ a := ne_of_gt first
      rcases lt_trichotomy b key with second | rfl | second
      · have away' : key ≠ b := ne_of_gt second
        simp [insert, away, away', first, second, ne, ne.symm, h, not_after]
      · simp [insert, ne, ne.symm, h, not_after]
      · have away' : key ≠ b := ne_of_lt second
        simp [insert, away, away', first, lt_asymm second, ne, not_after]
    · simp [insert, ne, not_after]
    · have away : key ≠ a := ne_of_lt first
      have later : key < b := lt_trans first h
      have away' : key ≠ b := ne_of_lt later
      simp [insert, away, away', lt_asymm first, lt_asymm later, ih]

theorem insert_comm {a b : String} (h : a ≠ b) (x y : α) (fields : List (String × α)) :
    insert a x (insert b y fields) = insert b y (insert a x fields) := by
  rcases lt_or_gt_of_ne h with lt | gt
  · exact insert_comm_of_lt lt x y fields
  · exact (insert_comm_of_lt gt y x fields).symm

private theorem get?_foldl_insert (name : String) (pairs fields : List (String × α)) :
    get? name (pairs.foldl (fun fields pair => insert pair.1 pair.2 fields) fields) =
      pairs.foldl (fun found pair => if pair.1 = name then some pair.2 else found)
        (get? name fields) := by
  induction pairs generalizing fields with
  | nil => rfl
  | cons pair rest ih =>
    rw [List.foldl_cons, List.foldl_cons, ih]
    by_cases same : pair.1 = name
    · rw [same, get?_insert_self, if_pos rfl]
    · rw [get?_insert_of_ne (fun e => same e.symm), if_neg same]

/-- Of several pairs with one name the last counts. -/
theorem get?_ofPairs (name : String) (pairs : List (String × α)) :
    get? name (ofPairs pairs) =
      pairs.foldl (fun found pair => if pair.1 = name then some pair.2 else found) none :=
  get?_foldl_insert name pairs []

end Fields

namespace Json

@[simp]
theorem child?_ofPairs (pairs : List (String × Json)) (segment : String) :
    (ofPairs pairs).child? segment =
      pairs.foldl (fun found pair => if pair.1 = segment then some pair.2 else found) none :=
  Fields.get?_ofPairs segment pairs

/-- Neither of two paths leads to the other. -/
def Path.Diverges (p q : Path) : Prop :=
  ¬ p <+: q ∧ ¬ q <+: p

@[simp]
theorem Path.not_diverges_nil (p : Path) : ¬ Path.Diverges [] p :=
  fun h => h.1 List.nil_prefix

@[simp]
theorem Path.not_diverges_nil_right (p : Path) : ¬ Path.Diverges p [] :=
  fun h => h.2 List.nil_prefix

@[simp]
theorem Path.diverges_cons (a b : String) (p q : Path) :
    Path.Diverges (a :: p) (b :: q) ↔ a ≠ b ∨ Path.Diverges p q := by
  by_cases same : a = b
  · subst same
    simp [Path.Diverges, List.cons_prefix_cons]
  · have other : b ≠ a := fun e => same e.symm
    simp [Path.Diverges, List.cons_prefix_cons, same, other]

theorem child?_set (value new : Json) (segment : String) (rest : Path) :
    (value.set new (segment :: rest)).child? segment =
      some (((Fields.get? segment value.writableFields).getD .null).set new rest) := by
  simp [set, child?, Fields.get?_insert_self]

@[simp]
theorem set_ne_array (value new : Json) (segment : String) (rest : Path) (items : List Json) :
    value.set new (segment :: rest) ≠ .array items :=
  nofun

@[simp]
theorem ofPairs_ne_array (pairs : List (String × Json)) (items : List Json) :
    ofPairs pairs ≠ .array items :=
  nofun

theorem child?_of_not_array {value : Json} (h : ∀ items, value ≠ .array items) (segment : String) :
    value.child? segment = Fields.get? segment value.writableFields := by
  cases value with
  | array items => exact absurd rfl (h items)
  | null | bool _ | number _ | string _ | object _ => rfl

@[simp]
theorem child?_set_of_ne {segment other : String} (h : other ≠ segment) {value : Json}
    (noArray : ∀ items, value ≠ .array items) (new : Json) (rest : Path) :
    (value.set new (segment :: rest)).child? other = value.child? other := by
  rw [child?_of_not_array noArray]
  exact Fields.get?_insert_of_ne h _ _

theorem writableFields_set (value new : Json) (segment : String) (rest : Path) :
    (value.set new (segment :: rest)).writableFields =
      Fields.insert segment
        (((Fields.get? segment value.writableFields).getD .null).set new rest)
        value.writableFields :=
  rfl

@[simp]
theorem lookup_set_self (value new : Json) (path : Path) :
    (value.set new path).lookup path = some new := by
  induction path generalizing value with
  | nil => rfl
  | cons segment rest ih => simp [lookup, child?_set, ih]

@[simp]
theorem stringAt_set_self (value : Json) (s : String) (path : Path) :
    (value.set (.string s) path).stringAt path = s := by
  rw [stringAt, string?At, lookup_set_self]
  rfl

@[simp]
theorem set_set (value first second : Json) (path : Path) :
    (value.set first path).set second path = value.set second path := by
  induction path generalizing value with
  | nil => rfl
  | cons segment rest ih =>
    rw [set, writableFields_set, Fields.get?_insert_self, Fields.insert_insert, Option.getD_some,
      ih]
    rfl

/-- Writes at places that do not contain each other can change their order. -/
theorem set_comm {p q : Path} (h : Path.Diverges p q) (value x y : Json) :
    (value.set x p).set y q = (value.set y q).set x p := by
  induction p generalizing value q with
  | nil => exact absurd h (Path.not_diverges_nil q)
  | cons a p ih =>
    cases q with
    | nil => exact absurd h (Path.not_diverges_nil_right _)
    | cons b q =>
      by_cases same : a = b
      · subst same
        have below : Path.Diverges p q := by simpa using h
        simp only [set, writableFields, Fields.get?_insert_self, Fields.insert_insert,
          Option.getD_some]
        rw [ih below]
      · have other : b ≠ a := fun e => same e.symm
        simp only [set, writableFields, Fields.get?_insert_of_ne other,
          Fields.get?_insert_of_ne same]
        rw [Fields.insert_comm other]

/-- A read away from a write does not see what was written. -/
theorem lookup_set_congr {p q : Path} (h : Path.Diverges p q) (value x y : Json) :
    (value.set x p).lookup q = (value.set y p).lookup q := by
  induction p generalizing value q with
  | nil => exact absurd h (Path.not_diverges_nil q)
  | cons a p ih =>
    cases q with
    | nil => exact absurd h (Path.not_diverges_nil_right _)
    | cons b q =>
      rw [lookup, lookup]
      by_cases same : a = b
      · subst same
        have below : Path.Diverges p q := by simpa using h
        rw [child?_set, child?_set, Option.bind_some, Option.bind_some, ih below]
      · have other : b ≠ a := fun e => same e.symm
        rw [set, child?, Fields.get?_insert_of_ne other, set, child?,
          Fields.get?_insert_of_ne other]

private theorem lookup_getD_null (below : Option Json) {path : Path} (h : path ≠ []) :
    (below.getD .null).lookup path = below.bind fun value => value.lookup path := by
  cases below with
  | some value => rfl
  | none =>
    cases path with
    | nil => exact absurd rfl h
    | cons segment rest => rfl

/-- A read away from a write gives what it gave before, unless the write turns an array on the common
way into an object. -/
theorem lookup_set_of_diverges {p q : Path} (h : Path.Diverges p q) (value new : Json)
    (noArray : ∀ c items, c <+: p → c <+: q → value.lookup c ≠ some (.array items)) :
    (value.set new p).lookup q = value.lookup q := by
  induction p generalizing value q with
  | nil => exact absurd h (Path.not_diverges_nil q)
  | cons a p ih =>
    cases q with
    | nil => exact absurd h (Path.not_diverges_nil_right _)
    | cons b q =>
      have not_array : ∀ items, value ≠ .array items := fun items e =>
        noArray [] items List.nil_prefix List.nil_prefix (by rw [lookup, e])
      rw [lookup, lookup, child?_of_not_array not_array]
      by_cases same : a = b
      · subst same
        have below : Path.Diverges p q := by simpa using h
        have q_ne : q ≠ [] := fun e => Path.not_diverges_nil_right p (e ▸ below)
        rw [child?_set, Option.bind_some, ih below, lookup_getD_null _ q_ne]
        intro c items hp hq
        have outer := noArray (a :: c) items (List.cons_prefix_cons.mpr ⟨rfl, hp⟩)
          (List.cons_prefix_cons.mpr ⟨rfl, hq⟩)
        rw [lookup, child?_of_not_array not_array] at outer
        cases c with
        | nil => cases found : Fields.get? a value.writableFields <;> simp_all [lookup]
        | cons b' c => rwa [lookup_getD_null _ (List.cons_ne_nil _ _)]
      · have other : b ≠ a := fun e => same e.symm
        rw [set, child?, Fields.get?_insert_of_ne other]

/-- No item of an array can be addressed by a segment that is no index. -/
theorem child?_of_name {segment : String} (name : Text.readNatural? greatestIndex segment = none)
    (value : Json) : value.child? segment = Fields.get? segment value.writableFields := by
  cases value with
  | array items => simp [child?, name, writableFields, Fields.get?]
  | null | bool _ | number _ | string _ | object _ => rfl

/-- A read by names, away from a write, gives what it gave before. -/
theorem lookup_set_of_names {p q : Path} (h : Path.Diverges p q)
    (names : ∀ segment ∈ q, Text.readNatural? greatestIndex segment = none) (value new : Json) :
    (value.set new p).lookup q = value.lookup q := by
  induction p generalizing value q with
  | nil => exact absurd h (Path.not_diverges_nil q)
  | cons a p ih =>
    cases q with
    | nil => exact absurd h (Path.not_diverges_nil_right _)
    | cons b q =>
      have name := names b List.mem_cons_self
      rw [lookup, lookup, child?_of_name name value]
      by_cases same : a = b
      · subst same
        have below : Path.Diverges p q := by simpa using h
        have q_ne : q ≠ [] := fun e => Path.not_diverges_nil_right p (e ▸ below)
        rw [child?_set, Option.bind_some, ih below fun segment mem =>
          names segment (List.mem_cons_of_mem _ mem), lookup_getD_null _ q_ne]
      · have other : b ≠ a := fun e => same e.symm
        rw [set, child?, Fields.get?_insert_of_ne other]

theorem stringAt_set_of_names {p q : Path} (h : Path.Diverges p q)
    (names : ∀ segment ∈ q, Text.readNatural? greatestIndex segment = none) (value new : Json) :
    (value.set new p).stringAt q = value.stringAt q := by
  rw [stringAt, stringAt, string?At, string?At, lookup_set_of_names h names]

end Json

end DeploymentGateway
