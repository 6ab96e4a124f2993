import Ontology.Reading.Field
import Ontology.Json.Parser
import Ontology.Emission.Value
import Ontology.Namespace

/-!
Names, types and literals from JSON. A case without parts may be written as a bare string. A name is
a string, or an object with a `raw` field where it is not to be qualified. The value of a double is
a number or the text of one that JSON does not have.
-/

set_option autoImplicit false
set_option relaxedAutoImplicit false

namespace Ontology

/-- An identifier from its text. -/
def Identifier.ofJson? (json : Json) : Option Identifier := json.text?.map .mk

/-- A name as its author writes it. -/
def Name.ofJson? : Json → Option Name
  | .string text => some (.auto text)
  | json => (json.required "raw" Json.text?).map .raw

/-! ### Types -/

/-- All scalar types. -/
def ScalarType.all : List ScalarType :=
  [.string, .boolean, .byte, .short, .integer, .long, .float, .double, .decimal, .date, .timestamp,
    .geopoint, .geoshape, .attachment, .marking, .mediaReference, .geotimeSeries, .vector]

/-- A property type. -/
def PropertyType.ofJson? (json : Json) : Option PropertyType :=
  match json.tag? with
  | none => none
  | some "array" =>
    match _h : json.field? "item" with
    | none => none
    | some item => (PropertyType.ofJson? item).map .array
  | some "struct" =>
    match _h : json.itemsAt? "fields" with
    | none => none
    | some fields => (fields.attach.mapM fun (field : { field // field ∈ fields }) ↦ do
        let name ← field.1.required "apiName" Json.text?
        match _hf : field.1.field? "fieldType" with
        | none => none
        | some type => return (name, ← PropertyType.ofJson? type)).map .struct
  | some tag => (ScalarType.all.find? (·.name = tag)).map .scalar
termination_by sizeOf json
decreasing_by
  · exact Json.sizeOf_lt_of_field? _h
  · exact Nat.lt_trans (Json.sizeOf_lt_of_field? _hf) (Json.sizeOf_lt_of_itemsAt? _h field.2)

/-- A field of a structure. -/
def StructField.ofJson? (json : Json) : Option (String × PropertyType) :=
  return (← json.required "apiName" Json.text?,
    ← json.required "fieldType" PropertyType.ofJson?)

/-- The parameter types without parts. -/
def ParameterType.plain : List ParameterType :=
  [.boolean, .integer, .long, .double, .decimal, .string, .date, .timestamp, .geohash, .geoshape,
    .attachment, .marking, .mediaReference, .geotimeSeriesReference, .user, .group]

/-- A parameter type. -/
def ParameterType.ofJson? (json : Json) : Option ParameterType :=
  match json.tag? with
  | none => none
  | some "struct" => (json.listAt "fields" StructField.ofJson?).map .struct
  | some "objectReference" =>
    (json.required "objectType" Identifier.ofJson?).map .objectReference
  | some "interfaceReference" =>
    (json.required "interfaceType" Identifier.ofJson?).map .interfaceReference
  | some "objectTypeReference" =>
    (json.listAt "interfaceTypes" Identifier.ofJson?).map .objectTypeReference
  | some "objectSet" => (json.required "objectType" Identifier.ofJson?).map .objectSet
  | some "list" =>
    match _h : json.field? "item" with
    | none => none
    | some item => (ParameterType.ofJson? item).map .list
  | some tag => plain.find? (·.typeName = tag)
termination_by sizeOf json
decreasing_by exact Json.sizeOf_lt_of_field? _h

/-! ### Literals -/

/-- A double. -/
def doubleOfJson? : Json → Option Float
  | .number value => some value
  | .integer value => some (Json.closestDouble (decide (value < 0)) value.natAbs 0)
  | .string "NaN" => some (0.0 / 0.0)
  | .string "inf" => some (1.0 / 0.0)
  | .string "-inf" => some (-1.0 / 0.0)
  | _ => none

/-- An integer of 64 bits with its sign. -/
def int64OfJson? (json : Json) : Option Int64 :=
  (json.integer? Int64.minValue.toInt Int64.maxValue.toInt).map Int64.ofInt

/-- A literal. -/
def Literal.ofJson? (json : Json) : Option Literal :=
  match json.tag? with
  | none => none
  | some "null" => some .null
  | some "boolean" => (json.required "value" Json.truth?).map .boolean
  | some "integer" => (json.required "value" int64OfJson?).map .integer
  | some "double" => (json.required "value" doubleOfJson?).map .double
  | some "string" => (json.required "value" Json.text?).map .string
  | some "date" => (json.required "value" Json.text?).map .date
  | some "timestamp" => (json.required "value" Json.text?).map .timestamp
  | some "list" =>
    match _h : json.itemsAt? "value" with
    | none => none
    | some items => (items.attach.mapM fun item ↦ Literal.ofJson? item.1).map .list
  | some _ => none
termination_by sizeOf json
decreasing_by exact Json.sizeOf_lt_of_itemsAt? _h item.2

end Ontology
