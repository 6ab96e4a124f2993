import Ontology.Json

/-!
Access to the parts of JSON documents. A field that is null counts as one that is missing, and of
several fields of one name the last counts. The parts are smaller than the whole, which is what
readers of nested documents recurse on.
-/

set_option autoImplicit false
set_option relaxedAutoImplicit false

namespace Ontology.Json

/-! ### Parts -/

/-- The field of a name, unless it is null. -/
def field? (json : Json) (name : String) : Option Json :=
  match json with
  | .object fields =>
    match fields.reverse.find? (·.1 = name) with
    | some (_, .null) => none
    | some (_, value) => some value
    | none => none
  | _ => none

/-- The items of an array that stands in a field; there are none where the field is missing. -/
def itemsAt? (json : Json) (name : String) : Option (List Json) :=
  match json.field? name with
  | none => some []
  | some (.array items) => some items
  | some _ => none

theorem sizeOf_lt_of_mem_fields {fields : List (String × Json)} {field : String × Json}
    (h : field ∈ fields) : sizeOf field.2 < sizeOf (Json.object fields) := by
  have hmem := List.sizeOf_lt_of_mem h
  obtain ⟨name, value⟩ := field
  simp only [Prod.mk.sizeOf_spec, object.sizeOf_spec] at hmem ⊢
  omega

theorem sizeOf_lt_of_field? {json value : Json} {name : String}
    (h : json.field? name = some value) : sizeOf value < sizeOf json := by
  unfold field? at h
  split at h
  · split at h
    · cases h
    · next found =>
      cases h
      exact sizeOf_lt_of_mem_fields (List.mem_reverse.1 (List.mem_of_find?_eq_some found))
    · cases h
  · cases h

theorem sizeOf_lt_of_itemsAt? {json item : Json} {name : String} {items : List Json}
    (h : json.itemsAt? name = some items) (hitem : item ∈ items) :
    sizeOf item < sizeOf json := by
  unfold itemsAt? at h
  split at h
  · cases h
    cases hitem
  · next found =>
    cases h
    have := List.sizeOf_lt_of_mem hitem
    have := sizeOf_lt_of_field? found
    simp only [array.sizeOf_spec] at this
    omega
  · cases h

/-! ### Plain values -/

/-- The text of a string. -/
def text? : Json → Option String
  | .string value => some value
  | _ => none

/-- The truth value of a boolean. -/
def truth? : Json → Option Bool
  | .boolean value => some value
  | _ => none

/-- An integer between two bounds. -/
def integer? (low high : Int) : Json → Option Int
  | .integer value => if low ≤ value ∧ value ≤ high then some value else none
  | _ => none

/-- A length of at most 32 bits. -/
def length? (json : Json) : Option Nat :=
  (json.integer? 0 (UInt32.size - 1)).map Int.toNat

/-- The name of a case: a string, or the `type` field of an object. -/
def tag? : Json → Option String
  | .string tag => some tag
  | json => (json.field? "type").bind text?

/-! ### Readers of fields -/

variable {α β : Type}

/-- What stands in a field that must be there. -/
def required (json : Json) (name : String) (read : Json → Option α) : Option α :=
  (json.field? name).bind read

/-- What stands in a field that may be missing. -/
def optional (json : Json) (name : String) (read : Json → Option α) : Option (Option α) :=
  match json.field? name with
  | none => some none
  | some value => (read value).map some

/-- What stands in a field, or a default where it is missing. -/
def orElse (json : Json) (name : String) (read : Json → Option α) (default : α) : Option α :=
  (json.optional name read).map (·.getD default)

/-- The items of an array. -/
def list? (read : Json → Option α) : Json → Option (List α)
  | .array items => items.mapM read
  | _ => none

/-- The items of an array in a field that may be missing. -/
def listAt (json : Json) (name : String) (read : Json → Option α) : Option (List α) :=
  json.orElse name (list? read) []

/-- The two items of an array of two. -/
def pair? (first : Json → Option α) (second : Json → Option β) : Json → Option (α × β)
  | .array [a, b] => return (← first a, ← second b)
  | _ => none

/-- The case of an enumeration that a string names. -/
def case? (cases : List α) (name : α → String) (json : Json) : Option α := do
  let text ← json.text?
  cases.find? (name · = text)

end Ontology.Json
