import Ontology.Json
import Ontology.ParameterType

/-!
The JSON form of names, literals and types. A choice is an object that says by its `type` which
case it is.
-/

set_option autoImplicit false
set_option relaxedAutoImplicit false

namespace Ontology

/-- An identifier is emitted as its text. -/
def Identifier.toJson (id : Identifier) : Json := .string id.text

/-- Identifiers are emitted as their texts. -/
def Identifier.listToJson (ids : List Identifier) : Json := .array (ids.map (·.toJson))

/-! ### Literals -/

/-- A double; JSON has no other than finite ones, and the rest is null. -/
def doubleToJson (value : Float) : Json := if value.isFinite then .number value else .null

namespace Literal

mutual

/-- The JSON form of a literal. -/
def toJson : Literal → Json
  | .null => .tagged "null" []
  | .boolean value => .tagged "boolean" [("value", .boolean value)]
  | .integer value => .tagged "integer" [("value", .integer value.toInt)]
  | .double value => .tagged "double" [("value", doubleToJson value)]
  | .string value => .tagged "string" [("value", .string value)]
  | .date value => .tagged "date" [("value", .string value)]
  | .timestamp value => .tagged "timestamp" [("value", .string value)]
  | .list items => .tagged "list" [("value", .array (listToJson items))]

/-- The JSON forms of several literals. -/
def listToJson : List Literal → List Json
  | [] => []
  | item :: rest => toJson item :: listToJson rest

end

end Literal

/-! ### Types -/

namespace PropertyType

mutual

/-- The JSON form of a property type. -/
def toJson : PropertyType → Json
  | .scalar type => .tagged type.name []
  | .struct fields => .tagged "struct" [("fields", .array (fieldsToJson fields))]
  | .array item => .tagged "array" [("item", toJson item)]

/-- The JSON forms of the fields of a structure. -/
def fieldsToJson : List (String × PropertyType) → List Json
  | [] => []
  | (name, type) :: rest =>
    .object [("apiName", .string name), ("fieldType", toJson type)] :: fieldsToJson rest

end

end PropertyType

/-- The JSON form of a parameter type. -/
def ParameterType.toJson : ParameterType → Json
  | .struct fields => .tagged "struct" [("fields", .array (PropertyType.fieldsToJson fields))]
  | .objectReference objectType => .tagged "objectReference" [("objectType", objectType.toJson)]
  | .interfaceReference interfaceType =>
    .tagged "interfaceReference" [("interfaceType", interfaceType.toJson)]
  | .objectTypeReference interfaceTypes =>
    .tagged "objectTypeReference" [("interfaceTypes", Identifier.listToJson interfaceTypes)]
  | .objectSet objectType => .tagged "objectSet" [("objectType", objectType.toJson)]
  | .list item => .tagged "list" [("item", item.toJson)]
  | type => .tagged type.typeName []

end Ontology
