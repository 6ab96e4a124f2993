import Ontology.Emission.Schema
import Ontology.Emission.Action
import Ontology.Dump

/-!
The JSON form of entities and dumps. A table becomes an object whose fields are its keys in order;
an object type in a dump carries its data source as its last field.
-/

set_option autoImplicit false
set_option relaxedAutoImplicit false

namespace Ontology

/-- The JSON form of a table. -/
def Table.toJson {α : Type} (encode : α → Json) (table : Table α) : Json :=
  .object (table.entries.map fun (key, value) ↦ (key.text, encode value))

/-- The JSON form of an entity of any kind. -/
def Entity.toJson : Entity → Json
  | .sharedPropertyType type => type.toJson
  | .interfaceType type => type.toJson
  | .objectType type => type.toJson
  | .actionType type => type.toJson
  | .valueType type => type.toJson

/-- The JSON form of an object type with its data source. -/
def DumpedObject.toJson (object : DumpedObject) : Json :=
  .object (object.type.fields ++ [("datasource", Column.sourceToJson object.columns)])

/-- The JSON form of one side of a dump. -/
def OntologyDump.toJson (dump : OntologyDump) : Json :=
  .object
    [("sharedPropertyTypes", dump.sharedPropertyTypes.toJson SharedPropertyType.toJson),
      ("interfaceTypes", dump.interfaceTypes.toJson InterfaceType.toJson),
      ("objectTypes", dump.objectTypes.toJson DumpedObject.toJson),
      ("actionTypes", dump.actionTypes.toJson ActionType.toJson)]

/-- The JSON form of a dump. -/
def Dump.toJson (dump : Dump) : Json :=
  .object <|
    [("ontology", dump.ontology.toJson), ("importedOntology", dump.importedOntology.toJson),
      ("valueTypes", dump.valueTypes.toJson ValueType.toJson),
      ("importedValueTypes", dump.importedValueTypes.toJson ValueType.toJson),
      ("actionPermissions", dump.actionPermissions.toJson ActionPermission.toJson)] ++
    Json.optionalField "randomnessKey" .string dump.randomnessKey

end Ontology
