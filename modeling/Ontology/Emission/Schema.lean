import Ontology.Emission.Value
import Ontology.Schema

/-!
The JSON form of entities that describe data. Descriptions and references that are not given leave
no field.
-/

set_option autoImplicit false
set_option relaxedAutoImplicit false

namespace Ontology

/-- The JSON form of a shared property type. -/
def SharedPropertyType.toJson (type : SharedPropertyType) : Json :=
  .object <|
    [("id", type.id.toJson), ("type", type.type.toJson),
      ("displayName", .string type.displayName)] ++
    Json.optionalField "description" .string type.description ++
    Json.optionalField "valueType" Identifier.toJson type.valueType

/-- The JSON form of a value type. -/
def ValueType.toJson (type : ValueType) : Json :=
  .object <|
    [("id", type.id.toJson), ("version", .string type.version),
      ("baseType", type.baseType.toJson), ("displayName", .string type.displayName)] ++
    Json.optionalField "description" .string type.description

/-- The JSON form of a property that an interface declares. -/
def InterfaceProperty.toJson : InterfaceProperty → Json
  | .shared id required =>
    .tagged "shared" [("sharedPropertyType", id.toJson), ("required", .boolean required)]
  | .inline id type displayName required =>
    .tagged "inline"
      [("id", id.toJson), ("propertyType", type.toJson), ("displayName", .string displayName),
        ("required", .boolean required)]

/-- The JSON form of an interface type. -/
def InterfaceType.toJson (type : InterfaceType) : Json :=
  .object <|
    [("id", type.id.toJson), ("displayName", .string type.displayName)] ++
    Json.optionalField "description" .string type.description ++
    [("extends", Identifier.listToJson type.parents),
      ("properties", .array (type.properties.map (·.toJson)))]

/-- The JSON form of a property of an object. -/
def ObjectProperty.toJson (property : ObjectProperty) : Json :=
  .object <|
    [("apiName", .string property.apiName), ("type", property.type.toJson),
      ("displayName", .string property.displayName)] ++
    Json.optionalField "description" .string property.description ++
    Json.optionalField "sharedPropertyType" Identifier.toJson property.sharedPropertyType

/-- The JSON form of a mapping of an interface property. -/
def PropertyMapping.toJson (mapping : PropertyMapping) : Json :=
  .object
    [("interfaceProperty", mapping.interfaceProperty.toJson),
      ("objectProperty", .string mapping.objectProperty)]

/-- The JSON form of an implementation of an interface. -/
def Implementation.toJson (implementation : Implementation) : Json :=
  .object
    [("interface", implementation.interface.toJson),
      ("propertyMappings", .array (implementation.mappings.map (·.toJson)))]

/-- The fields of an object type, without its data source. -/
def ObjectType.fields (type : ObjectType) : List (String × Json) :=
  [("id", type.id.toJson), ("displayName", .string type.displayName),
    ("pluralDisplayName", .string type.pluralDisplayName)] ++
  Json.optionalField "description" .string type.description ++
  [("primaryKey", .string type.primaryKey), ("titleProperty", .string type.titleProperty),
    ("properties", .array (type.properties.map (·.toJson))),
    ("implements", .array (type.implements.map (·.toJson)))]

/-- The JSON form of an object type, without its data source. -/
def ObjectType.toJson (type : ObjectType) : Json := .object type.fields

/-- The JSON form of a column. -/
def Column.toJson (column : Column) : Json :=
  .object [("property", .string column.property), ("column", .string column.column)]

/-- The JSON form of a data source with the given columns. -/
def Column.sourceToJson (columns : List Column) : Json :=
  .object [("columns", .array (columns.map (·.toJson)))]

/-- The JSON form of a submission restriction. -/
def ActionPermission.toJson (permission : ActionPermission) : Json :=
  .object
    [("actionType", permission.actionType.toJson),
      ("submitterGroups", Json.strings permission.submitterGroups)]

end Ontology
