import DeploymentGateway.Json.Reader
import DeploymentGateway.Proofs.Json.Difference
/-!
Values whose objects have their fields in increasing order of the names, each name once. Every value that
is read from a document is one, and writing and removing keep it one. Of such a value it can be told
whether it is the same as before, and not only whether it reads the same.
-/

set_option autoImplicit false

namespace DeploymentGateway

namespace Fields

variable {α β : Type}

/-- The names of the fields increase, so that no name stands twice. -/
def Increasing (fields : List (String × α)) : Prop :=
  fields.Pairwise fun a b => a.1 < b.1

theorem mem_insert {name : String} {value : α} {field : String × α} {fields : List (String × α)}
    (mem : field ∈ insert name value fields) : field = (name, value) ∨ field ∈ fields := by
  induction fields with
  | nil => simpa [insert] using mem
  | cons first rest ih =>
    obtain ⟨key, old⟩ := first
    unfold insert at mem
    split at mem
    · exact (List.mem_cons.mp mem).imp_right (List.mem_cons_of_mem _)
    · split at mem
      · exact List.mem_cons.mp mem
      · rcases List.mem_cons.mp mem with rfl | mem
        · exact .inr List.mem_cons_self
        · exact (ih mem).imp_right (List.mem_cons_of_mem _)

theorem mem_of_get? {name : String} {value : α} {fields : List (String × α)}
    (found : get? name fields = some value) : (name, value) ∈ fields := by
  induction fields with
  | nil => cases found
  | cons field rest ih =>
    obtain ⟨key, old⟩ := field
    by_cases same : key = name
    · subst same
      cases (by simpa [get?] using found : old = value)
      exact List.mem_cons_self
    · exact List.mem_cons_of_mem _ (ih (by simpa [get?, same] using found))

theorem erase_of_get?_eq_none {name : String} {fields : List (String × α)}
    (absent : get? name fields = none) : erase name fields = fields := by
  induction fields with
  | nil => rfl
  | cons field rest ih =>
    by_cases same : field.1 = name
    · simp [get?, same] at absent
    · have absent : get? name rest = none := by simpa [get?, same] using absent
      have kept : (field :: rest).filter (fun field => field.1 ≠ name) = field :: erase name rest :=
        List.filter_cons_of_pos (by simpa using same)
      rw [erase, kept, ih absent]

/-- To leave out a new field again gives the fields back. -/
theorem erase_insert_of_get?_eq_none {name : String} {fields : List (String × α)}
    (absent : get? name fields = none) (value : α) :
    erase name (insert name value fields) = fields := by
  induction fields with
  | nil => simp [insert, erase]
  | cons field rest ih =>
    obtain ⟨key, old⟩ := field
    have other : key ≠ name := fun same => by simp [get?, same] at absent
    have later : get? name rest = none := by simpa [get?, other] using absent
    have kept := erase_of_get?_eq_none absent
    by_cases before : name < key
    · simpa [insert, other, before, erase] using kept
    · simpa [insert, other, before, erase] using ih later

namespace Increasing

variable {fields : List (String × α)}

theorem insert (increasing : Increasing fields) (name : String) (value : α) :
    Increasing (insert name value fields) := by
  induction fields with
  | nil => exact List.pairwise_singleton _ _
  | cons field rest ih =>
    obtain ⟨key, old⟩ := field
    obtain ⟨first, later⟩ := List.pairwise_cons.mp increasing
    unfold Fields.insert
    split
    · rename_i same
      subst same
      exact List.pairwise_cons.mpr ⟨first, later⟩
    · split
      · rename_i before
        refine List.pairwise_cons.mpr ⟨fun other mem => ?_, increasing⟩
        rcases List.mem_cons.mp mem with rfl | mem
        · exact before
        · exact before.trans (first other mem)
      · rename_i ne notBefore
        refine List.pairwise_cons.mpr ⟨fun other mem => ?_, ih later⟩
        rcases mem_insert mem with rfl | mem
        · exact lt_of_le_of_ne (not_lt.mp notBefore) ne
        · exact first other mem

theorem erase (increasing : Increasing fields) (name : String) : Increasing (erase name fields) :=
  increasing.filter _

/-- To write what stands in a field already changes nothing. -/
theorem insert_of_get? (increasing : Increasing fields) {name : String} {value : α}
    (found : get? name fields = some value) : Fields.insert name value fields = fields := by
  induction fields with
  | nil => cases found
  | cons field rest ih =>
    obtain ⟨key, old⟩ := field
    obtain ⟨first, later⟩ := List.pairwise_cons.mp increasing
    by_cases same : key = name
    · simp_all [get?, Fields.insert]
    · have found : get? name rest = some value := by simpa [get?, same] using found
      have notBefore : ¬ name < key := (first _ (mem_of_get? found)).asymm
      simp [Fields.insert, same, notBefore, ih later found]

end Increasing

end Fields

namespace Json

/-- What is removed is taken out of an object, at the end of the path or further down. -/
theorem remove_cases {value found : Json} {segment : String} {rest : Path}
    (taken : (value.remove (segment :: rest)).2 = some found) :
    ∃ fields below, value = .object fields ∧ Fields.get? segment fields = some below ∧
      (rest = [] ∧ below = found ∧
          (value.remove (segment :: rest)).1 = .object (Fields.erase segment fields) ∨
        rest ≠ [] ∧ (below.remove rest).2 = some found ∧
          (value.remove (segment :: rest)).1 =
            .object (Fields.insert segment (below.remove rest).1 fields)) := by
  cases value with
  | object fields =>
    rcases first : Fields.get? segment fields with _ | below
    · cases rest <;> simp [remove, first] at taken
    refine ⟨fields, below, rfl, first, ?_⟩
    rcases rest with _ | ⟨next, rest⟩
    · exact .inl ⟨rfl, by simpa [remove, first] using taken, by simp [remove, first]⟩
    · right
      rcases run : below.remove (next :: rest) with ⟨changed, _ | old⟩
      · simp [remove, first, run] at taken
      · exact ⟨List.cons_ne_nil _ _, by simpa [remove, first, run] using taken,
          by simp [remove, first, run]⟩
  | null | bool _ | number _ | string _ | array _ => cases rest <;> simp [remove] at taken

/-- In every object of a value the names of the fields increase. -/
inductive Ordered : Json → Prop where
  | null : Ordered .null
  | bool (value : Bool) : Ordered (.bool value)
  | number (value : JsonNumber) : Ordered (.number value)
  | string (value : String) : Ordered (.string value)
  | array {items : List Json} (each : ∀ item ∈ items, Ordered item) : Ordered (.array items)
  | object {fields : List (String × Json)} (increasing : Fields.Increasing fields)
      (each : ∀ field ∈ fields, Ordered field.2) : Ordered (.object fields)

namespace Ordered

variable {value new : Json}

theorem fields (ordered : value.Ordered) :
    Fields.Increasing value.writableFields ∧ ∀ field ∈ value.writableFields, Ordered field.2 := by
  cases ordered with
  | object increasing each => exact ⟨increasing, each⟩
  | null | bool _ | number _ | string _ | array _ => exact ⟨List.Pairwise.nil, by simp [writableFields]⟩

private theorem getD_null {name : String} {fields : List (String × Json)}
    (each : ∀ field ∈ fields, Ordered field.2) : ((Fields.get? name fields).getD .null).Ordered := by
  rcases found : Fields.get? name fields with _ | below
  · exact .null
  · exact each _ (Fields.mem_of_get? found)

theorem object_insert {name : String} {fields : List (String × Json)}
    (ordered : (Json.object fields).Ordered) (below : new.Ordered) :
    (Json.object (Fields.insert name new fields)).Ordered := by
  obtain ⟨increasing, each⟩ := ordered.fields
  refine .object (increasing.insert name new) fun field mem => ?_
  rcases Fields.mem_insert mem with rfl | mem
  · exact below
  · exact each field mem

/-- A write keeps the order of all fields. -/
theorem set (ordered : value.Ordered) (written : new.Ordered) (path : Path) :
    (value.set new path).Ordered := by
  induction path generalizing value with
  | nil => exact written
  | cons segment rest ih =>
    obtain ⟨increasing, each⟩ := ordered.fields
    exact object_insert (.object increasing each) (ih (getD_null each))

/-- A removal keeps the order of all fields. -/
theorem remove (ordered : value.Ordered) (path : Path) : (value.remove path).1.Ordered := by
  induction path generalizing value with
  | nil => exact ordered
  | cons segment rest ih =>
    rcases taken : (value.remove (segment :: rest)).2 with _ | found
    · rw [remove_eq_of_none taken]
      exact ordered
    obtain ⟨fields, below, rfl, first, ⟨rfl, rfl, left⟩ | ⟨-, -, left⟩⟩ := remove_cases taken
    · obtain ⟨increasing, each⟩ := ordered.fields
      rw [left]
      exact .object (increasing.erase segment) fun field mem => each field (List.mem_of_mem_filter mem)
    · rw [left]
      exact object_insert ordered (ih (ordered.fields.2 _ (Fields.mem_of_get? first)))

end Ordered

namespace Reader

mutual

/-- What is read from a document has its fields in order, whatever order the document has them in. -/
theorem ordered_of_json {depth : Nat} {document : Document} {value : Json}
    (read : json depth document = .ok value) : value.Ordered := by
  cases document with
  | null | bool _ =>
    simp only [json, Except.ok.injEq] at read
    subst read
    constructor
  | number n =>
    cases n with
    | integer n =>
      simp only [json, Except.ok.injEq] at read
      exact read ▸ .number _
    | float x =>
      cases x <;> simp only [json, Except.ok.injEq, reduceCtorEq] at read
      exact read ▸ .number _
  | string s =>
    cases s <;> simp only [json, Except.ok.injEq, reduceCtorEq] at read
    exact read ▸ .string _
  | array items closed =>
    unfold json at read
    split at read
    · cases read
    · split at read
      · cases read
      · rename_i run
        split at read
        · cases read
          exact .array (ordered_of_jsonItems run)
        · cases read
  | object fields closed =>
    unfold json at read
    split at read
    · cases read
    · split at read
      · cases read
      · rename_i run
        split at read
        · cases read
          exact ordered_of_jsonFields (.object .nil nofun) run
        · cases read
  | broken => cases read

private theorem ordered_of_jsonItems {depth : Nat} {documents : List Document} {values : List Json}
    (read : jsonItems depth documents = .ok values) : ∀ value ∈ values, value.Ordered := by
  cases documents with
  | nil =>
    cases read
    exact nofun
  | cons item rest =>
    unfold jsonItems at read
    split at read
    · cases read
    · rename_i first run
      rcases later : jsonItems depth rest with fault | others
      · simp [later, Except.map] at read
      · simp only [later, Except.map, Except.ok.injEq] at read
        subst read
        exact List.forall_mem_cons.mpr ⟨ordered_of_json run, ordered_of_jsonItems later⟩

private theorem ordered_of_jsonFields {depth : Nat} {before : List (String × Json)}
    {documents : List (Option String × Document)} {values : List (String × Json)}
    (ordered : (Json.object before).Ordered) (read : jsonFields depth before documents = .ok values) :
    (Json.object values).Ordered := by
  cases documents with
  | nil =>
    cases read
    exact ordered
  | cons field rest =>
    obtain ⟨_ | name, document⟩ := field
    · cases read
    · unfold jsonFields at read
      split at read
      · cases read
      · rename_i value run
        exact ordered_of_jsonFields (ordered.object_insert (ordered_of_json run)) read

end

end Reader

theorem ordered_of_parse? {source : String} {value : Json} (denoted : parse? source = some value) :
    value.Ordered := by
  rw [parse?] at denoted
  split at denoted
  · rename_i found read
    cases denoted
    unfold Reader.runText at read
    rcases whole : Reader.json Reader.depthLimit (Document.read source).1 with fault | value
    · simp [whole, bind, Except.bind] at read
    · simp only [whole, bind, Except.bind] at read
      split at read
      · cases read
        exact Reader.ordered_of_json whole
      · cases read
  · cases denoted

end Json

end DeploymentGateway
