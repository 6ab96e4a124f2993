import Ontology.Emission.Dump
import Ontology.Proofs.Lookup
import Mathlib.Data.List.Forall2
import Mathlib.Data.Option.Basic

/-!
Equality of JSON values. `Json.Same` compares two documents as values: arrays item by item, and
objects by what stands under each name, in whatever order the fields come. A missing field is not
the same as a field that is null, and numbers are the same when they are the same double, so that
the two zeros, whose texts differ, are kept apart.

`Json.Determines` says of a value that no other has the same JSON form. Objects are taken apart
field by field: `fieldsSame_cons_iff` and `fieldsSame_optionalField_append_iff` split off a field
whose name does not occur again. With the lemmas on arrays, options and tables this reduces the
question for a record to its parts, and `simp` carries it out.
-/

set_option autoImplicit false
set_option relaxedAutoImplicit false

namespace Ontology.Json

/-! ### Fields by name -/

/-- What stands under a name; of several fields of one name the last counts. -/
def valueAt? (name : String) : List (String × Json) → Option Json
  | [] => none
  | field :: rest => (valueAt? name rest).or (if field.1 = name then some field.2 else none)

section Fields

variable {name other : String} {value : Json} {fields others : List (String × Json)}

@[simp] theorem valueAt?_nil : valueAt? name [] = none := by
  rw [valueAt?]

@[simp] theorem valueAt?_cons :
    valueAt? name ((other, value) :: fields) =
      (valueAt? name fields).or (if other = name then some value else none) := by
  rw [valueAt?]

@[simp] theorem valueAt?_append :
    valueAt? name (fields ++ others) = (valueAt? name others).or (valueAt? name fields) := by
  induction fields with
  | nil => simp
  | cons field rest ih => simp [valueAt?, ih, Option.or_assoc]

@[simp] theorem valueAt?_optionalField {α : Type} {encode : α → Json} {content : Option α} :
    valueAt? name (optionalField other encode content) =
      if other = name then content.map encode else none := by
  cases content <;> simp [optionalField]

end Fields

/-! ### Equality of values -/

/-- Two JSON values are the same, the order of fields aside. -/
inductive Same : Json → Json → Prop
  | null : Same .null .null
  | boolean (value : Bool) : Same (.boolean value) (.boolean value)
  | integer (value : Int) : Same (.integer value) (.integer value)
  | number (value : Float) : Same (.number value) (.number value)
  | string (value : String) : Same (.string value) (.string value)
  | array {items others : List Json} (hitems : List.Forall₂ Same items others) :
    Same (.array items) (.array others)
  | object {fields others : List (String × Json)}
    (hfields : ∀ name, Option.Rel Same (valueAt? name fields) (valueAt? name others)) :
    Same (.object fields) (.object others)

/-- Two lists of fields hold the same under every name. -/
def FieldsSame (fields others : List (String × Json)) : Prop :=
  ∀ name, Option.Rel Same (valueAt? name fields) (valueAt? name others)

section Leaves

variable {json : Json}

@[simp] theorem null_same_iff : Same .null json ↔ json = .null :=
  ⟨fun h ↦ by cases h; rfl, fun h ↦ h ▸ .null⟩

@[simp] theorem same_null_iff : Same json .null ↔ json = .null :=
  ⟨fun h ↦ by cases h; rfl, fun h ↦ h ▸ .null⟩

@[simp] theorem same_boolean_iff {a b : Bool} : Same (.boolean a) (.boolean b) ↔ a = b :=
  ⟨fun h ↦ by cases h; rfl, fun h ↦ h ▸ .boolean a⟩

@[simp] theorem same_integer_iff {a b : Int} : Same (.integer a) (.integer b) ↔ a = b :=
  ⟨fun h ↦ by cases h; rfl, fun h ↦ h ▸ .integer a⟩

@[simp] theorem same_number_iff {a b : Float} : Same (.number a) (.number b) ↔ a = b :=
  ⟨fun h ↦ by cases h; rfl, fun h ↦ h ▸ .number a⟩

@[simp] theorem same_string_iff {a b : String} : Same (.string a) (.string b) ↔ a = b :=
  ⟨fun h ↦ by cases h; rfl, fun h ↦ h ▸ .string a⟩

@[simp] theorem same_array_iff {items others : List Json} :
    Same (.array items) (.array others) ↔ List.Forall₂ Same items others :=
  ⟨fun h ↦ by cases h; assumption, .array⟩

@[simp] theorem same_object_iff {fields others : List (String × Json)} :
    Same (.object fields) (.object others) ↔ FieldsSame fields others :=
  ⟨fun h ↦ by cases h; assumption, .object⟩

end Leaves

/-! ### Objects field by field -/

section Peeling

variable {name : String} {fields others : List (String × Json)}

@[simp] theorem fieldsSame_nil : FieldsSame [] [] := fun _ ↦ .none

/-- An optional field whose name does not occur again is compared on its own. -/
@[simp] theorem fieldsSame_optionalField_append_iff {α : Type} {encode : α → Json}
    {first second : Option α} (hfields : valueAt? name fields = none)
    (hothers : valueAt? name others = none) :
    FieldsSame (optionalField name encode first ++ fields)
        (optionalField name encode second ++ others) ↔
      Option.Rel Same (first.map encode) (second.map encode) ∧ FieldsSame fields others := by
  constructor
  · intro h
    refine ⟨by simpa [hfields, hothers] using h name, fun sought ↦ ?_⟩
    by_cases hsought : name = sought
    · rw [← hsought, hfields, hothers]
      exact .none
    · simpa [hsought] using h sought
  · rintro ⟨hvalue, hrest⟩ sought
    by_cases hsought : name = sought
    · simpa [← hsought, hfields, hothers] using hvalue
    · simpa [hsought] using hrest sought

@[simp] theorem fieldsSame_optionalField_iff {α : Type} {encode : α → Json}
    {first second : Option α} :
    FieldsSame (optionalField name encode first) (optionalField name encode second) ↔
      Option.Rel Same (first.map encode) (second.map encode) := by
  have happend : FieldsSame (optionalField name encode first ++ [])
        (optionalField name encode second ++ []) ↔
      Option.Rel Same (first.map encode) (second.map encode) ∧ FieldsSame [] [] :=
    fieldsSame_optionalField_append_iff valueAt?_nil valueAt?_nil
  rwa [List.append_nil, List.append_nil, and_iff_left fieldsSame_nil] at happend

/-- A field whose name does not occur again is compared on its own. -/
@[simp] theorem fieldsSame_cons_iff {first second : Json} (hfields : valueAt? name fields = none)
    (hothers : valueAt? name others = none) :
    FieldsSame ((name, first) :: fields) ((name, second) :: others) ↔
      first.Same second ∧ FieldsSame fields others := by
  have hoptional : FieldsSame (optionalField name id (some first) ++ fields)
        (optionalField name id (some second) ++ others) ↔
      Option.Rel Same (some first) (some second) ∧ FieldsSame fields others :=
    fieldsSame_optionalField_append_iff hfields hothers
  rwa [Option.rel_some_some] at hoptional

/-- A choice is compared by its case and by the fields of the case. -/
@[simp] theorem same_tagged_iff {tag otherTag : String} (hfields : valueAt? "type" fields = none)
    (hothers : valueAt? "type" others = none) :
    Same (tagged tag fields) (tagged otherTag others) ↔
      tag = otherTag ∧ FieldsSame fields others := by
  rw [tagged, tagged, same_object_iff, fieldsSame_cons_iff hfields hothers, same_string_iff]

end Peeling

/-! ### Values that their JSON form determines -/

/-- No other value has the same JSON form. -/
def Determines {α : Type} (encode : α → Json) (value : α) : Prop :=
  ∀ other, (encode value).Same (encode other) ↔ value = other

section Containers

variable {α : Type} {encode : α → Json}

@[simp] theorem determines_iff {value : α} :
    Determines encode value ↔ ∀ other, (encode value).Same (encode other) ↔ value = other :=
  Iff.rfl

theorem Determines.same_iff {value other : α} (h : Determines encode value) :
    (encode value).Same (encode other) ↔ value = other :=
  h other

/-- Items are determined when each of them is, given what it holds. -/
theorem determines_of_flatMap {β : Type} {P : β → Prop} {contents : α → List β} {items : List α}
    (hencode : ∀ item, (∀ value ∈ contents item, P value) → Determines encode item)
    (h : ∀ value ∈ items.flatMap contents, P value) : ∀ item ∈ items, Determines encode item :=
  fun item hmem ↦ hencode item (List.forall_mem_flatMap.mp h item hmem)

@[simp] theorem same_items_iff {items others : List α}
    (h : ∀ item ∈ items, Determines encode item) :
    List.Forall₂ Same (items.map encode) (others.map encode) ↔ items = others := by
  induction items generalizing others with
  | nil => cases others <;> simp
  | cons item rest ih =>
    cases others with
    | nil => simp
    | cons other others =>
      have hrest : List.Forall₂ Same (rest.map encode) (others.map encode) ↔ rest = others :=
        ih fun later hlater ↦ h later (List.mem_cons_of_mem _ hlater)
      rw [List.map_cons, List.map_cons, List.forall₂_cons,
        (h item List.mem_cons_self).same_iff, hrest, List.cons.injEq]

@[simp] theorem same_option_iff {first second : Option α}
    (h : ∀ value ∈ first, Determines encode value) :
    Option.Rel Same (first.map encode) (second.map encode) ↔ first = second := by
  cases first <;> cases second
  · exact iff_of_true .none rfl
  · exact iff_of_false nofun nofun
  · exact iff_of_false nofun nofun
  · next value other =>
    rw [Option.map_some, Option.map_some, Option.rel_some_some, (h value rfl).same_iff,
      Option.some.injEq]

/-- An optional value may be null where it is missing, as long as no value is null. -/
theorem same_ofOption_iff {first second : Option α} (hnull : ∀ value, encode value ≠ .null)
    (h : ∀ value ∈ first, Determines encode value) :
    Same (ofOption encode first) (ofOption encode second) ↔ first = second := by
  cases first <;> cases second
  · exact iff_of_true .null rfl
  · next other => exact iff_of_false (fun hsame ↦ hnull other (null_same_iff.mp hsame)) nofun
  · next value => exact iff_of_false (fun hsame ↦ hnull value (same_null_iff.mp hsame)) nofun
  · next value other => rw [ofOption, ofOption, (h value rfl).same_iff, Option.some.injEq]

end Containers

/-! ### Tables -/

section Tables

variable {α : Type} {encode : α → Json} {first second : Table α}

theorem valueAt?_entries {entries : List (Identifier × α)} {key : Identifier}
    (hsorted : entries.Pairwise fun a b ↦ a.1.text < b.1.text) :
    valueAt? key.text (entries.map fun entry ↦ (entry.1.text, encode entry.2)) =
      (Table.findEntry key entries).map encode := by
  induction entries with
  | nil => rfl
  | cons entry rest ih =>
    obtain ⟨other, value⟩ := entry
    obtain ⟨hlater, hrest⟩ := List.pairwise_cons.mp hsorted
    rw [List.map_cons, valueAt?_cons, ih hrest, Table.findEntry]
    by_cases hkey : other = key
    · -- Later keys are greater, so the entry is the only one of its key.
      have hnone : Table.findEntry key rest = none := by
        rw [Option.eq_none_iff_forall_ne_some]
        intro found hfound
        have hmem := (Table.findEntry_eq_some_iff hrest).mp hfound
        exact String.lt_irrefl key.text (hkey ▸ hlater _ hmem)
      simp [hkey, hnone]
    · have htext : other.text ≠ key.text := fun h ↦ hkey (congrArg Identifier.mk h)
      simp [Ne.symm hkey, htext]

/-- A table is determined if its values are, since it emits each of them under its key. -/
@[simp] theorem same_table_iff (h : ∀ entry ∈ first.entries, Determines encode entry.2) :
    (first.toJson encode).Same (second.toJson encode) ↔ first = second := by
  have hvalue (table : Table α) (key : Identifier) :
      valueAt? key.text (table.entries.map fun entry ↦ (entry.1.text, encode entry.2)) =
        (table.get? key).map encode :=
    valueAt?_entries table.sorted
  have hoption (key : Identifier) :
      Option.Rel Same ((first.get? key).map encode) ((second.get? key).map encode) ↔
        first.get? key = second.get? key :=
    same_option_iff fun value hfound ↦
      h (key, value) ((Table.findEntry_eq_some_iff first.sorted).mp hfound)
  rw [Table.toJson, Table.toJson, same_object_iff]
  constructor
  · refine fun hfields ↦ Table.ext_get? fun key ↦ (hoption key).mp ?_
    rw [← hvalue, ← hvalue]
    exact hfields key.text
  · rintro rfl name
    change Option.Rel Same (valueAt? (⟨name⟩ : Identifier).text _) _
    rw [hvalue]
    exact (hoption _).mpr rfl

end Tables

end Ontology.Json
