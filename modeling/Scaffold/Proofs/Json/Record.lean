import Mathlib.Data.List.Forall2
import Mathlib.Data.List.Induction
import Mathlib.Data.List.Nodup
import Scaffold.Json.Record

/-!
# How records are written

A record can be written in many ways.  As an object it may lack any fields that have their default, and may have fields
that the record does not know; as a list it may lack fields that have their default from some place on.  `Schema.Writes`
says so without decoding anything, and `Schema.Writes.exists_given` is what the decoding of a record has to know of it:
whichever way it was written, a look-up finds the value of a field, or nothing where the value is the default.

## Main Definitions

* `Json.Schema` — the fields of a record, with their defaults
* `Json.Schema.Writes` — the JSON values that a record may be written as
* `Json.Schema.Given` — what the look-up of a field finds

## Main Statements

* `NameMap.get?_ofList_eq_some_iff` — what is found in a map of entries with different names
* `Json.Schema.Writes.exists_given` — a record that was written has its fields
* `Json.Schema.writes_ofFields`, `Json.Schema.writes_array` — a record with all its fields
-/

namespace Scaffold

/-! ### Maps of entries -/

namespace NameMap

universe u

variable {α : Type u} {entries : List (String × α)} {name : String} {value : α}

/-- Where no name is listed twice, a look-up finds what is listed. -/
theorem lookup_eq_some_iff_of_nodup (h : (entries.map Prod.fst).Nodup) :
    lookup name entries = some value ↔ (name, value) ∈ entries := by
  induction entries with
  | nil => simp [lookup]
  | cons first rest ih =>
    rw [List.map_cons, List.nodup_cons] at h
    rw [lookup, List.mem_cons]
    split
    · next heq =>
      have hrest : (name, value) ∉ rest := fun hmem => h.1 (heq ▸ List.mem_map_of_mem hmem)
      rw [or_iff_left hrest, Option.some_inj, Prod.ext_iff, and_iff_right heq, eq_comm]
    · next hne =>
      have hfirst : (name, value) ≠ first := fun heq => hne (congrArg Prod.fst heq)
      rw [ih h.2, or_iff_right hfirst]

/-- Of several entries of a name, the last one is found in the map of them. -/
theorem get?_ofList (entries : List (String × α)) (name : String) :
    (ofList entries).get? name = lookup name entries.reverse := by
  induction entries using List.reverseRecOn with
  | nil => rfl
  | append_singleton front last ih =>
    rw [List.reverse_concat, lookup, ofList, List.foldl_append]
    refine get?_insert.trans ?_
    split
    · rfl
    · exact ih

/-- In the map of entries with different names, the entries are found. -/
theorem get?_ofList_eq_some_iff (h : (entries.map Prod.fst).Nodup) :
    (ofList entries).get? name = some value ↔ (name, value) ∈ entries := by
  have hreverse : (entries.reverse.map Prod.fst).Nodup := by
    rw [List.map_reverse]
    exact List.pairwise_reverse.2 (h.imp Ne.symm)
  rw [get?_ofList, lookup_eq_some_iff_of_nodup hreverse, List.mem_reverse]

/-- Listing a map and collecting the list gives the map back. -/
theorem ofList_toList (map : NameMap α) : ofList map.toList = map := by
  refine ext_get? fun name => Option.ext fun value => ?_
  rw [get?_ofList_eq_some_iff map.names.nodup_toList, get?_eq_some_iff]

end NameMap

namespace Json

/-! ### Values that are written and read -/

theorem texts?_ofStrings (texts : List String) : texts? (ofStrings texts) = some texts := by
  show (texts.map string).mapM text? = some texts
  induction texts with
  | nil => rfl
  | cons text rest ih =>
    rw [List.map_cons, List.mapM_cons, ih]
    rfl

/-- A set that was listed is the set of the list. -/
theorem nameSet?_ofStrings (set : NameSet) : nameSet? (ofStrings set.toList) = some set := by
  rw [nameSet?, texts?_ofStrings]
  exact congrArg some (NameSet.ofList_toList set)

theorem nullableText?_ofOption (text : Option String) : nullableText? (ofOption text) = some text := by
  cases text <;> rfl

/-- A list is read item by item. -/
theorem listOf?_array {α : Type} {decode : Json → Option α} {values : List α} {items : List Json}
    (h : List.Forall₂ (fun value item => decode item = some value) values items) :
    listOf? decode (.array items) = some values := by
  show items.mapM decode = some values
  induction h with
  | nil => rfl
  | cons hfirst _ ih =>
    rw [List.mapM_cons, hfirst, ih]
    rfl

/-! ### Records -/

/-- What there is to know of a kind of records: their fields in the order of the list form, the fields that have to be
there, and the values that stand for the others where these are left out. -/
structure Schema where
  /-- The names of the fields. -/
  names : List String
  /-- The names of those without a default. -/
  required : List String
  /-- The values of the fields where they are left out; those of required fields do not matter. -/
  defaults : List Json
  /-- No two fields have one name. -/
  nodup : names.Nodup

namespace Schema

variable {schema : Schema} {values : List Json} {json : Json}

/-- A field may be left out: it is not required, and it has its default. -/
def MayOmit (schema : Schema) (field : String × Json) : Prop :=
  field.1 ∉ schema.required ∧ NameMap.lookup field.1 (schema.names.zip schema.defaults) = some field.2

/-- The ways in which a record with the given values of its fields may be written. -/
inductive Writes (schema : Schema) (values : List Json) : Json → Prop where
  /-- An object that has the fields of the record, but for some that may be left out, and any fields of other names. -/
  | object (entries : NameMap Json)
      (known : ∀ field ∈ schema.names.zip values,
        entries.get? field.1 = some field.2 ∨ entries.get? field.1 = none ∧ schema.MayOmit field) :
      Writes schema values (.ofMap entries)
  /-- A list of the first values, if all fields after them may be left out. -/
  | list (count : Nat) (tail : ∀ field ∈ (schema.names.zip values).drop count, schema.MayOmit field) :
      Writes schema values (.array (values.take count))

/-- The look-up of a field finds its value, or nothing if the field may be left out. -/
def Given (schema : Schema) (fields : Fields Json) (field : String × Json) : Prop :=
  fields field.1 = some field.2 ∨ fields field.1 = none ∧ schema.MayOmit field

section

variable {α : Type} {fields : Fields Json} {name : String} {value : Json} {decode : Json → Option α} {result : α}

/-- A required field is there, and is read. -/
theorem Given.required (h : schema.Given fields (name, value)) (hrequired : name ∈ schema.required)
    (hvalue : decode value = some result) : fields.required name decode = some result := by
  have hsome : fields name = some value := h.resolve_right fun hnone => hnone.2.1 hrequired
  rw [Fields.required, hsome]
  exact hvalue

/-- Another field is there, or has its default; it is read if the default is what stands for it. -/
theorem Given.optional {default : α} (h : schema.Given fields (name, value))
    (hdefault : (NameMap.lookup name (schema.names.zip schema.defaults)).bind decode = some default)
    (hvalue : decode value = some result) : fields.optional name decode default = some result := by
  unfold Fields.optional
  rcases h with hsome | ⟨hnone, homitted⟩
  · rw [hsome]
    exact hvalue
  · rw [homitted.2] at hdefault
    rw [hnone, ← hvalue]
    exact hdefault.symm

end

theorem nodup_map_fst_zip (hlength : values.length = schema.names.length) :
    ((schema.names.zip values).map Prod.fst).Nodup := by
  rw [List.map_fst_zip (Nat.le_of_eq hlength.symm)]
  exact schema.nodup

/-- The first values are paired with the first names. -/
theorem zip_take (names : List String) (values : List Json) (count : Nat) :
    names.zip (values.take count) = (names.zip values).take count := by
  induction names generalizing values count with
  | nil => simp
  | cons name names ih =>
    cases values with
    | nil => simp
    | cons value values =>
      cases count with
      | zero => rfl
      | succ count => rw [List.take_succ_cons, List.zip_cons_cons, List.zip_cons_cons, List.take_succ_cons, ih]

/-- Of fields with different names, those that stand in a front part of the list are found in it, and no others. -/
theorem lookup_take {fields : List (String × Json)} (h : (fields.map Prod.fst).Nodup) (count : Nat)
    {field : String × Json} (hmem : field ∈ fields) :
    NameMap.lookup field.1 (fields.take count) = some field.2 ∨
      NameMap.lookup field.1 (fields.take count) = none ∧ field ∈ fields.drop count := by
  have hfront : ((fields.take count).map Prod.fst).Nodup :=
    h.sublist ((List.take_sublist count fields).map Prod.fst)
  cases hlookup : NameMap.lookup field.1 (fields.take count) with
  | some found =>
    have hfound := (NameMap.lookup_eq_some_iff_of_nodup hfront).1 hlookup
    have hsame := List.inj_on_of_nodup_map h (List.mem_of_mem_take hfound) hmem rfl
    exact .inl (congrArg (some ·.2) hsame)
  | none =>
    rw [← List.take_append_drop count fields, List.mem_append] at hmem
    refine .inr ⟨rfl, hmem.resolve_left fun htake => ?_⟩
    rw [(NameMap.lookup_eq_some_iff_of_nodup hfront).2 htake] at hlookup
    cases hlookup

/-- A record that was written has its fields. -/
theorem Writes.exists_given (h : schema.Writes values json) (hlength : values.length = schema.names.length) :
    ∃ fields, json.record? schema.names = some fields ∧
      ∀ field ∈ schema.names.zip values, schema.Given fields field := by
  cases h with
  | object entries known => exact ⟨entries.get?, rfl, known⟩
  | list count tail =>
    have hshort : (values.take count).length ≤ schema.names.length :=
      hlength ▸ (List.take_sublist count values).length_le
    refine ⟨_, if_pos hshort, fun field hmem => ?_⟩
    unfold Given
    rw [zip_take]
    exact (lookup_take (nodup_map_fst_zip hlength) count hmem).imp id fun hnone => ⟨hnone.1, tail field hnone.2⟩

/-- An object of all fields is a way to write a record. -/
theorem writes_ofFields (hlength : values.length = schema.names.length) :
    schema.Writes values (.ofFields (schema.names.zip values)) :=
  .object _ fun _ hmem => .inl ((NameMap.get?_ofList_eq_some_iff (nodup_map_fst_zip hlength)).2 hmem)

/-- A list of all values is a way to write a record. -/
theorem writes_array : schema.Writes values (.array values) := by
  have hnone : (schema.names.zip values).drop values.length = [] :=
    List.drop_eq_nil_of_le (by rw [List.length_zip]; exact Nat.min_le_right _ _)
  have hlist : schema.Writes values (.array (values.take values.length)) := .list values.length (by simp [hnone])
  rwa [List.take_length] at hlist

end Schema

end Json

end Scaffold
