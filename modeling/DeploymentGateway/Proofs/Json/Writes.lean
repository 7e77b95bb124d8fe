import DeploymentGateway.Proofs.Json.Difference
import Mathlib.Data.List.Infix
/-!
Several writes into a value, at places that do not contain each other. Their order does not count, each of them
is read back, nothing else is seen to change, and to write all of it once more changes nothing at all.
-/

set_option autoImplicit false

namespace DeploymentGateway.Json

/-- A place, and what is to stand there. -/
abbrev Write : Type := Path × Json

/-- A value after some writes, one after the other. -/
def writes (value : Json) (edits : List Write) : Json :=
  edits.foldl (fun value edit => value.set edit.2 edit.1) value

/-- The places of writes do not contain each other. -/
def Apart (edits : List Write) : Prop :=
  edits.Pairwise fun edit other => Path.Diverges edit.1 other.1

/-- Nothing but objects stands on the way to some places, as far as anything stands there. -/
def Passable (value : Json) (places : List Path) : Prop :=
  ∀ place ∈ places, ∀ above, above <+: place → above ≠ place →
    ∀ found, value.lookup above = some found → ∃ fields, found = .object fields

private theorem passable_iff {value : Json} {places : List Path} :
    (∀ place ∈ places, ∀ above ∈ place.inits, above = place ∨
      ∀ found ∈ value.lookup above, found.object?.isSome) ↔ value.Passable places := by
  refine forall_congr' fun place => forall_congr' fun _ => forall_congr' fun above => ?_
  have isObject (found : Json) : found.object?.isSome ↔ ∃ fields, found = .object fields := by
    cases found <;> simp [object?]
  simp only [List.mem_inits, Option.mem_def, isObject, or_iff_not_imp_left, ne_eq]

instance (value : Json) (places : List Path) : Decidable (value.Passable places) :=
  decidable_of_iff _ passable_iff

namespace Path

instance (p q : Path) : Decidable (Diverges p q) :=
  inferInstanceAs (Decidable (¬ p <+: q ∧ ¬ q <+: p))

/-- What lies in one of two places that do not contain each other does not meet what lies in the other. -/
theorem Diverges.mono {p q p' q' : Path} (apart : Diverges p q) (left : p <+: p') (right : q <+: q') :
    Diverges p' q' := by
  constructor
  · intro inside
    exact (List.prefix_or_prefix_of_prefix (left.trans inside) right).elim apart.1 apart.2
  · intro inside
    exact (List.prefix_or_prefix_of_prefix left (right.trans inside)).elim apart.1 apart.2

/-- Fields of one object lie apart. -/
theorem diverges_append_singleton {p : Path} {a b : String} (ne : a ≠ b) :
    Diverges (p ++ [a]) (p ++ [b]) := by
  induction p with
  | nil => simpa using ne
  | cons segment p ih => simpa using ih

end Path

section

variable {value new : Json} {place : Path} {edits others : List Write}

@[simp]
theorem writes_nil (value : Json) : value.writes [] = value :=
  rfl

@[simp]
theorem writes_cons (value : Json) (edit : Write) (edits : List Write) :
    value.writes (edit :: edits) = (value.set edit.2 edit.1).writes edits :=
  rfl

theorem writes_append (value : Json) (edits others : List Write) :
    value.writes (edits ++ others) = (value.writes edits).writes others :=
  List.foldl_append

theorem setAll_eq_writes (value : Json) (path : Path) (fields : List (String × Json)) :
    value.setAll path fields = value.writes (fields.map fun field => (path ++ [field.1], field.2)) := by
  rw [setAll, writes, List.foldl_map]

/-- A write can wait until others are done that lie away from it. -/
theorem writes_set (away : ∀ edit ∈ edits, Path.Diverges place edit.1) (value new : Json) :
    (value.set new place).writes edits = (value.writes edits).set new place := by
  induction edits generalizing value with
  | nil => rfl
  | cons edit edits ih =>
    have first := away edit List.mem_cons_self
    rw [writes_cons, writes_cons, set_comm first,
      ih fun other mem => away other (List.mem_cons_of_mem edit mem)]

/-- The order of writes that lie apart does not count. -/
theorem writes_swap (apart : ∀ edit ∈ edits, ∀ other ∈ others, Path.Diverges edit.1 other.1)
    (value : Json) : value.writes (edits ++ others) = value.writes (others ++ edits) := by
  induction edits generalizing value with
  | nil => rw [List.nil_append, List.append_nil]
  | cons edit edits ih =>
    have later := fun edit mem => apart edit (List.mem_cons_of_mem _ mem)
    rw [List.cons_append, writes_cons, ih later, writes_append, writes_append,
      writes_set (apart edit List.mem_cons_self)]
    rfl

/-- What is written is read. -/
theorem lookup_writes_self (apart : Apart edits) (mem : (place, new) ∈ edits) (value : Json) :
    (value.writes edits).lookup place = some new := by
  induction edits generalizing value with
  | nil => cases mem
  | cons edit edits ih =>
    obtain ⟨away, rest⟩ := List.pairwise_cons.mp apart
    rcases List.mem_cons.mp mem with rfl | later
    · rw [writes_cons, writes_set away, lookup_set_self]
    · exact ih rest later _

/-- What writes go through is an object then. -/
theorem hasObject_writes (apart : Apart edits) (mem : (place, new) ∈ edits) {above : Path}
    (onWay : above <+: place) (ne : above ≠ place) (value : Json) :
    (value.writes edits).HasObject above := by
  induction edits generalizing value with
  | nil => cases mem
  | cons edit edits ih =>
    obtain ⟨away, rest⟩ := List.pairwise_cons.mp apart
    rcases List.mem_cons.mp mem with rfl | later
    · rw [writes_cons, writes_set away]
      exact hasObject_set onWay ne _ _
    · exact ih rest later _

/-- To do the same writes again changes nothing. -/
theorem writes_writes (apart : Apart edits) (value : Json) :
    (value.writes edits).writes edits = value.writes edits := by
  induction edits generalizing value with
  | nil => rfl
  | cons edit edits ih =>
    obtain ⟨away, rest⟩ := List.pairwise_cons.mp apart
    have last := writes_set away value edit.2
    rw [writes_cons, writes_cons, last, set_set, writes_set away, ih rest]

/-- A read by names, away from all writes, gives what it gave before. -/
theorem lookup_writes_of_names (away : ∀ edit ∈ edits, Path.Diverges edit.1 place)
    (names : ∀ segment ∈ place, Text.readNatural? greatestIndex segment = none) (value : Json) :
    (value.writes edits).lookup place = value.lookup place := by
  induction edits generalizing value with
  | nil => rfl
  | cons edit edits ih =>
    rw [writes_cons, ih fun other mem => away other (List.mem_cons_of_mem edit mem),
      lookup_set_of_names (away edit List.mem_cons_self) names]

theorem stringAt_writes_of_names (away : ∀ edit ∈ edits, Path.Diverges edit.1 place)
    (names : ∀ segment ∈ place, Text.readNatural? greatestIndex segment = none) (value : Json) :
    (value.writes edits).stringAt place = value.stringAt place := by
  rw [stringAt, stringAt, string?At, string?At, lookup_writes_of_names away names]

/-- Where there was no array on the way to a place there is none after writes that do not reach the place. -/
private theorem noArray_writes (apart : Apart edits) (outside : ∀ edit ∈ edits, ¬ edit.1 <+: place)
    (noArray : ∀ above items, above <+: place → value.lookup above ≠ some (.array items))
    (items : List Json) : (value.writes edits).lookup place ≠ some (.array items) := by
  induction edits generalizing place items with
  | nil => exact noArray place items List.prefix_rfl
  | cons edit edits ih =>
    obtain ⟨away, rest⟩ := List.pairwise_cons.mp apart
    obtain ⟨first, later⟩ := List.forall_mem_cons.mp outside
    rw [writes_cons, writes_set away]
    by_cases onWay : place <+: edit.1
    · obtain ⟨fields, object⟩ := hasObject_set onWay (fun same => first (same ▸ List.prefix_rfl))
        (value.writes edits) edit.2
      rw [object]
      nofun
    · rw [lookup_set_of_diverges ⟨first, onWay⟩]
      · exact ih rest later noArray items
      · intro above others _ toPlace
        exact ih rest (fun other mem reaches => later other mem (reaches.trans toPlace))
          (fun higher items onWay => noArray higher items (onWay.trans toPlace)) others

/-- A read away from all writes gives what it gave before, where writes go through objects only. -/
theorem lookup_writes_of_diverges (apart : Apart edits) (passable : value.Passable (edits.map Prod.fst))
    (away : ∀ edit ∈ edits, Path.Diverges edit.1 place) :
    (value.writes edits).lookup place = value.lookup place := by
  induction edits with
  | nil => rfl
  | cons edit edits ih =>
    obtain ⟨first, rest⟩ := List.pairwise_cons.mp apart
    obtain ⟨here, later⟩ := List.forall_mem_cons.mp away
    rw [writes_cons, writes_set first, lookup_set_of_diverges here]
    · exact ih rest (fun place mem => passable place (List.mem_cons_of_mem _ mem)) later
    · intro above items toEdit toPlace
      refine noArray_writes rest (fun other mem reaches => ?_) (fun higher items onWay array => ?_) items
      · exact (later other mem).1 (reaches.trans toPlace)
      · have ne : higher ≠ edit.1 := by
          rintro rfl
          exact here.1 (onWay.trans toPlace)
        obtain ⟨fields, object⟩ := passable edit.1 (by simp) higher (onWay.trans toEdit) ne _ array
        cases object

end

end DeploymentGateway.Json
