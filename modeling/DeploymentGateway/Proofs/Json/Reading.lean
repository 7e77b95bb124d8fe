import DeploymentGateway.Model.Wire
import DeploymentGateway.Proofs.Json.Ordered
import DeploymentGateway.Proofs.Sorted
import Mathlib.Data.List.Forall2
/-!
Readers that give values back. What a reader makes of the JSON form of a value is stated for every depth of
nesting that leaves room for that form, so that readers of parts are put together to readers of the whole. A
record is read from an object with one field for each of its rules, in whatever order the fields stand.
-/

set_option autoImplicit false

namespace DeploymentGateway

namespace Fields

variable {α β : Type}

private theorem insert_perm {name : String} {value : α} {fields : List (String × α)}
    (absent : ∀ field ∈ fields, field.1 ≠ name) :
    (insert name value fields).Perm ((name, value) :: fields) := by
  induction fields with
  | nil => exact .refl _
  | cons field rest ih =>
    obtain ⟨key, old⟩ := field
    have other : key ≠ name := absent (key, old) List.mem_cons_self
    rw [insert, if_neg other]
    split
    · exact .refl _
    · have later := ih fun field mem => absent field (List.mem_cons_of_mem _ mem)
      exact (later.cons (key, old)).trans (.swap _ _ _)

/-- Where no name stands twice, the fields of an object are the pairs it was made of, in another order. -/
theorem ofPairs_perm {pairs : List (String × α)} (distinct : (pairs.map Prod.fst).Nodup) :
    (ofPairs pairs).Perm pairs :=
  foldl_perm id (fun _ _ => insert_perm) distinct [] fun _ _ _ mem => absurd mem List.not_mem_nil

/-- A field behind all others is added at the end. -/
theorem insert_of_last {name : String} {fields : List (String × α)} (last : ∀ field ∈ fields, field.1 < name)
    (value : α) : insert name value fields = fields ++ [(name, value)] := by
  induction fields with
  | nil => rfl
  | cons field rest ih =>
    obtain ⟨before, later⟩ := List.forall_mem_cons.mp last
    rw [insert, if_neg before.ne, if_neg before.asymm, ih later, List.cons_append]

/-- Where no name stands twice, each field is found under its name. -/
theorem get?_of_mem {name : String} {value : α} {fields : List (String × α)}
    (distinct : (fields.map Prod.fst).Nodup) (mem : (name, value) ∈ fields) :
    get? name fields = some value := by
  induction fields with
  | nil => cases mem
  | cons field rest ih =>
    obtain ⟨fresh, later⟩ := List.nodup_cons.mp distinct
    rcases List.mem_cons.mp mem with rfl | mem
    · simp [get?]
    · have other : field.1 ≠ name := fun same => fresh (same ▸ List.mem_map_of_mem mem)
      rw [get?, if_neg other, ih later mem]

end Fields

namespace Json

theorem nesting_le_nestingOfItems {item : Json} {items : List Json} (mem : item ∈ items) :
    item.nesting ≤ nestingOfItems items := by
  induction items with
  | nil => cases mem
  | cons first rest ih =>
    rw [nestingOfItems]
    rcases List.mem_cons.mp mem with rfl | mem
    · exact Nat.le_max_left _ _
    · exact (ih mem).trans (Nat.le_max_right _ _)

theorem nesting_le_nestingOfFields {field : String × Json} {fields : List (String × Json)}
    (mem : field ∈ fields) : field.2.nesting ≤ nestingOfFields fields := by
  induction fields with
  | nil => cases mem
  | cons first rest ih =>
    rw [nestingOfFields]
    rcases List.mem_cons.mp mem with rfl | mem
    · exact Nat.le_max_left _ _
    · exact (ih mem).trans (Nat.le_max_right _ _)

namespace Document

theorem ofItems_eq_map (items : List Json) : ofItems items = items.map ofJson := by
  induction items with
  | nil => rfl
  | cons item rest ih => rw [ofItems, ih, List.map_cons]

theorem ofFields_eq_map (fields : List (String × Json)) :
    ofFields fields = fields.map fun field => (some field.1, ofJson field.2) := by
  induction fields with
  | nil => rfl
  | cons field rest ih => rw [ofFields, ih, List.map_cons]

theorem eq_null_of_ofJson {form : Json} (null : ofJson form = .null) : form = .null := by
  rcases form with _ | _ | (_ | _) | _ | _ | _
  · rfl
  all_goals cases null

end Document

namespace Reader

variable {α β : Type}

theorem descend_of_lt {n depth : Nat} (room : n + 1 < depth) :
    descend depth = .ok (depth - 1) ∧ n < depth - 1 := by
  refine ⟨if_neg (by omega), by omega⟩

/-- A reader makes a value of its JSON form, wherever the nesting of that is allowed. -/
def Reads (reader : Reader α) (form : Json) (a : α) : Prop :=
  ∀ depth, form.nesting < depth → reader depth (Document.ofJson form) = .ok a

namespace Reads

variable {reader : Reader α} {form : Json} {a : α}

theorem run (reads : reader.Reads form a) : reader.run form = .ok a :=
  reads _ (Nat.lt_succ_self _)

theorem convert {f : α → Option β} {b : β} (reads : reader.Reads form a) (image : f a = some b) :
    (Reader.convert reader f).Reads form b := by
  intro depth room
  simp [Reader.convert, reads depth room, image, bind, Except.bind]

end Reads

theorem reads_text (s : String) : text.Reads (.string s) s :=
  fun _ _ => rfl

private theorem reads_integer {low high n : Int} (fits : low ≤ n ∧ n ≤ high) :
    (integer low high).Reads (.ofInt n) n :=
  fun _ _ => if_pos fits

theorem reads_int64 (n : Int64) : int64.Reads (.ofInt n.toInt) n :=
  (reads_integer (by have := n.le_toInt; have := n.toInt_lt; omega)).convert (by simp)

theorem reads_uint64 (n : UInt64) : uint64.Reads (.ofInt n.toNat) n :=
  (reads_integer (by have := n.toNat_lt; omega)).convert (by simp)

theorem reads_uint8 (n : UInt8) : uint8.Reads (.ofInt n.toNat) n :=
  (reads_integer (by have := n.toNat_lt; omega)).convert (by simp)

theorem reads_word {ofWord? : String → Option α} {w : String} {a : α} (known : ofWord? w = some a) :
    (word ofWord?).Reads (.string w) a := by
  intro depth _
  simp [word, Document.ofJson, known]

/-- An optional value is told from its absence if no value has null for its form. -/
theorem reads_nullable {reader : Reader α} {encode : α → Json} {a? : Option α}
    (reads : ∀ a ∈ a?, reader.Reads (encode a) a) (present : ∀ a ∈ a?, encode a ≠ .null) :
    (nullable reader).Reads (ofOption encode a?) a? := by
  intro depth room
  cases a? with
  | none => rfl
  | some a =>
    have read := reads a rfl depth room
    rw [ofOption, nullable]
    · rw [read]
      rfl
    · exact fun null => present a rfl (Document.eq_null_of_ofJson null)

private theorem mapM_eq_ok {γ : Type} {f : β → Except Fault γ} {g : α → β} {h : α → γ} {l : List α}
    (each : ∀ a ∈ l, f (g a) = .ok (h a)) : (l.map g).mapM f = .ok (l.map h) := by
  induction l with
  | nil => rfl
  | cons a rest ih =>
    obtain ⟨first, later⟩ := List.forall_mem_cons.mp each
    rw [List.map_cons, List.mapM_cons, first, ih later]
    rfl

theorem reads_list {reader : Reader α} {encode : α → Json} {l : List α}
    (each : ∀ a ∈ l, reader.Reads (encode a) a) : (list reader).Reads (.array (l.map encode)) l := by
  intro depth room
  obtain ⟨down, room⟩ := descend_of_lt room
  have items : (l.map fun a => Document.ofJson (encode a)).mapM (reader (depth - 1)) = .ok (l.map id) :=
    mapM_eq_ok fun a mem => each a mem _ <|
      (nesting_le_nestingOfItems (List.mem_map_of_mem mem)).trans_lt room
  rw [Document.ofJson, list, down, Document.ofItems_eq_map, List.map_map]
  simp only [bind, Except.bind, Function.comp_def, items, List.map_id, if_true]

theorem reads_map {reader : Reader α} {encode : α → Json} {m : SortedMap String α}
    (each : ∀ entry ∈ m.toList, reader.Reads (encode entry.2) entry.2) :
    (map reader).Reads (.object (m.toList.map fun entry => (entry.1, encode entry.2))) m := by
  intro depth room
  obtain ⟨down, room⟩ := descend_of_lt room
  have entry_ok : ∀ entry ∈ m.toList,
      (reader (depth - 1) (Document.ofJson (encode entry.2))).map (fun a => (entry.1, a)) = .ok entry := by
    intro entry mem
    have inside := List.mem_map_of_mem (f := fun entry => (entry.1, encode entry.2)) mem
    rw [each entry mem _ ((nesting_le_nestingOfFields inside).trans_lt room)]
    rfl
  rw [Document.ofJson, map, down, Document.ofFields_eq_map, List.map_map]
  simp only [bind, Except.bind, Function.comp_def]
  rw [mapM_eq_ok (h := id) entry_ok]
  simp [SortedMap.ofList_toList]

/-! Values of any kind. -/

private theorem jsonItems_ofItems {depth : Nat} {items : List Json}
    (each : ∀ item ∈ items, json depth (Document.ofJson item) = .ok item) :
    jsonItems depth (Document.ofItems items) = .ok items := by
  induction items with
  | nil => rfl
  | cons item rest ih =>
    obtain ⟨first, later⟩ := List.forall_mem_cons.mp each
    simp [Document.ofItems, jsonItems, first, ih later, Except.map]

/-- Fields in order are added one behind the other. -/
private theorem jsonFields_ofFields {depth : Nat} (before : List (String × Json)) {fields : List (String × Json)}
    (increasing : Fields.Increasing (before ++ fields))
    (each : ∀ field ∈ fields, json depth (Document.ofJson field.2) = .ok field.2) :
    jsonFields depth before (Document.ofFields fields) = .ok (before ++ fields) := by
  induction fields generalizing before with
  | nil => simp [Document.ofFields, jsonFields]
  | cons field rest ih =>
    obtain ⟨first, later⟩ := List.forall_mem_cons.mp each
    have last : ∀ old ∈ before, old.1 < field.1 :=
      fun old mem => (List.pairwise_append.mp increasing).2.2 old mem field List.mem_cons_self
    have whole : before ++ field :: rest = before ++ [field] ++ rest := by simp
    rw [Document.ofFields, jsonFields, first]
    simp only [Fields.insert_of_last last]
    rw [whole] at increasing ⊢
    exact ih _ increasing later

theorem reads_json {value : Json} (ordered : value.Ordered) : json.Reads value value := by
  induction ordered with
  | null | bool _ | string _ => exact fun _ _ => rfl
  | number n => cases n <;> exact fun _ _ => rfl
  | array each ih =>
    intro depth room
    obtain ⟨-, inner⟩ := descend_of_lt room
    have items := jsonItems_ofItems fun item mem => ih item mem (depth - 1) <|
      (nesting_le_nestingOfItems mem).trans_lt inner
    simp only [Document.ofJson, json, items, if_true]
    exact if_neg (by simp only [nesting] at room; omega)
  | object increasing each ih =>
    intro depth room
    obtain ⟨-, inner⟩ := descend_of_lt room
    have fields := jsonFields_ofFields [] increasing fun field mem => ih field mem (depth - 1) <|
      (nesting_le_nestingOfFields mem).trans_lt inner
    simp only [Document.ofJson, json, fields, if_true]
    exact if_neg (by simp only [nesting] at room; omega)

end Reader

namespace Record

variable {α β : Type}

/-- A record makes a value of some fields, each of which stands for one of its rules. -/
structure Gives (record : Record α) (fields : List (String × Json)) (a : α) : Prop where
  checks : List.Forall₂ (fun rule field => rule.name = field.1 ∧
    ∀ depth, field.2.nesting < depth → rule.check depth (Document.ofJson field.2) = .ok ()) record.rules fields
  build : ∀ depth find, (∀ field ∈ fields, field.2.nesting < depth ∧
    find field.1 = some (Document.ofJson field.2)) → record.build depth find = .ok a

namespace Gives

variable {record : Record α} {fields : List (String × Json)} {a : α}

theorem seq {f : Record (α → β)} {before : List (String × Json)} {g : α → β} (first : f.Gives before g)
    (second : record.Gives fields a) : (f <*> record).Gives (before ++ fields) (g a) where
  checks := List.rel_append first.checks second.checks
  build depth find there := by
    obtain ⟨front, back⟩ := List.forall_mem_append.mp there
    show (do
      let f ← f.build depth find
      let a ← record.build depth find
      Except.ok (f a)) = _
    rw [first.build depth find front, second.build depth find back]
    rfl

theorem map (given : record.Gives fields a) (f : α → β) : (f <$> record).Gives fields (f a) :=
  have whole : (pure f).Gives [] f := ⟨.nil, fun _ _ _ => rfl⟩
  whole.seq given

end Gives

section

variable {reader : Reader α} {form : Json} {a : α} (name : String)

private theorem gives_field (defaulted : Bool) (absent : Except Fault α) (reads : reader.Reads form a) :
    (field name reader defaulted absent).Gives [(name, form)] a where
  checks := .cons ⟨rfl, fun depth room => by simp [reads depth room, Except.map]⟩ .nil
  build depth find there := by
    obtain ⟨room, found⟩ := there _ List.mem_cons_self
    simp only [field, found]
    exact reads depth room

theorem gives_required (reads : reader.Reads form a) : (required name reader).Gives [(name, form)] a :=
  gives_field name _ _ reads

theorem gives_withDefault (default : α) (reads : reader.Reads form a) :
    (withDefault name reader default).Gives [(name, form)] a :=
  gives_field name _ _ reads

variable {a? : Option α}

theorem gives_optional (reads : (Reader.nullable reader).Reads form a?) :
    (optional name reader).Gives [(name, form)] a? :=
  gives_field name _ _ reads

theorem gives_optionalAnywhere (reads : (Reader.nullable reader).Reads form a?) :
    (optionalAnywhere name reader).Gives [(name, form)] a? :=
  gives_field name _ _ reads

end

/-- The rule that is found for a field is the one that it stands for, as no other field has its name. -/
private theorem exists_rule {good : FieldRule → String × Json → Prop} {rules : List FieldRule}
    {fields : List (String × Json)}
    (checks : List.Forall₂ (fun rule field => rule.name = field.1 ∧ good rule field) rules fields)
    (distinct : (fields.map Prod.fst).Nodup) {field : String × Json} (mem : field ∈ fields) :
    ∃ rule, rules.find? (fun rule => rule.name == field.1) = some rule ∧ good rule field := by
  induction checks with
  | nil => cases mem
  | @cons rule first rules rest own _ ih =>
    obtain ⟨single, distinct⟩ := List.nodup_cons.mp distinct
    rcases List.mem_cons.mp mem with rfl | mem
    · exact ⟨rule, by simp [own.1], own.2⟩
    · have other : rule.name ≠ field.1 := fun same =>
        single ((own.1.symm.trans same) ▸ List.mem_map_of_mem mem)
      obtain ⟨found, known, passes⟩ := ih distinct mem
      exact ⟨found, by simpa [other] using known, passes⟩

/-- All fields are found, where each is of a rule and none stands twice. -/
private theorem scanFields_ofFields {rules : List FieldRule} {depth : Nat} {fields : List (String × Json)}
    (found : List (String × Document))
    (known : ∀ field ∈ fields, ∃ rule, rules.find? (fun rule => rule.name == field.1) = some rule ∧
      rule.check depth (Document.ofJson field.2) = .ok ())
    (distinct : (fields.map Prod.fst).Nodup) (fresh : ∀ field ∈ fields, ∀ entry ∈ found, entry.1 ≠ field.1) :
    scanFields rules depth (Document.ofFields fields) found =
      .ok (found ++ fields.map fun field => (field.1, Document.ofJson field.2)) := by
  induction fields generalizing found with
  | nil => simp [Document.ofFields, scanFields]
  | cons field rest ih =>
    obtain ⟨⟨rule, own, passed⟩, known⟩ := List.forall_mem_cons.mp known
    obtain ⟨single, distinct⟩ := List.nodup_cons.mp distinct
    obtain ⟨here, fresh⟩ := List.forall_mem_cons.mp fresh
    have new : (found.any fun entry => entry.1 == field.1) = false := by simpa using here
    rw [Document.ofFields, scanFields, own]
    simp only [new, passed]
    have later := ih (found ++ [(field.1, Document.ofJson field.2)]) known distinct fun other mem entry old => by
      rcases List.mem_append.mp old with old | last
      · exact fresh other mem entry old
      · rw [List.mem_singleton.mp last]
        exact fun same => single (same ▸ List.mem_map_of_mem mem)
    simpa using later

theorem Gives.reads {record : Record α} {fields : List (String × Json)} {a : α}
    (given : record.Gives fields a) (distinct : (fields.map Prod.fst).Nodup) :
    record.reader.Reads (.ofPairs fields) a := by
  intro depth room
  obtain ⟨down, room⟩ := Reader.descend_of_lt room
  have order := Fields.ofPairs_perm distinct
  have sorted : ((Fields.ofPairs fields).map Prod.fst).Nodup := (order.map Prod.fst).nodup_iff.mpr distinct
  have fits : ∀ field ∈ Fields.ofPairs fields, field.2.nesting < depth - 1 := fun field mem =>
    (nesting_le_nestingOfFields mem).trans_lt room
  have known : ∀ field ∈ Fields.ofPairs fields,
      ∃ rule, record.rules.find? (fun rule => rule.name == field.1) = some rule ∧
        rule.check (depth - 1) (Document.ofJson field.2) = .ok () := by
    intro field mem
    obtain ⟨rule, found, passes⟩ := exists_rule given.checks distinct (order.mem_iff.mp mem)
    exact ⟨rule, found, passes _ (fits field mem)⟩
  have scanned := scanFields_ofFields [] known sorted (fun _ _ _ mem => absurd mem List.not_mem_nil)
  rw [ofPairs, Document.ofJson, reader, down]
  simp only [bind, Except.bind, scanned, List.nil_append, if_true]
  refine given.build _ _ fun field mem => ?_
  have mem := order.mem_iff.mpr mem
  refine ⟨fits field mem, Fields.get?_of_mem ?_ (List.mem_map_of_mem mem)⟩
  simpa [List.map_map, Function.comp_def] using sorted

end Record

end Json

end DeploymentGateway
