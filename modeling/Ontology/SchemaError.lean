import Ontology.Identifier
import Ontology.PropertyType

/-!
What can be wrong with the definition of an entity, and the wording of each cause.
-/

set_option autoImplicit false
set_option relaxedAutoImplicit false

namespace Ontology

/-- Why an entity could not be defined or resolved. -/
inductive SchemaError where
  | naming (error : NameError)
  | unknownSharedPropertyType (id : Identifier) (referencedBy : String)
  | unknownInterfaceType (id : Identifier) (referencedBy : String)
  | unknownObjectType (id : Identifier)
  | unknownValueType (id : Identifier) (referencedBy : String)
  | missingPrimaryKey (object : Identifier)
  | unknownProperty (property entity : String)
  | duplicateProperty (property entity : String)
  | conflictingPropertyType (property interface : Identifier) (first second : PropertyType)
  /-- The path leads from the interface to one that is on it already. -/
  | interfaceCycle (interface : Identifier) (path : List Identifier)
  | unmappedInterfaceProperty (property interface object : Identifier)
  | mappingTypeMismatch (property interface : Identifier) (objectProperty : String)
      (expected actual : PropertyType)
deriving DecidableEq

/-- The wording of an error. -/
def SchemaError.message : SchemaError → String
  | .naming error => error.message
  | .unknownSharedPropertyType id referencedBy =>
    s!"Shared property type {id} referenced by {referencedBy} is not defined"
  | .unknownInterfaceType id referencedBy =>
    s!"Interface type {id} referenced by {referencedBy} is not defined"
  | .unknownObjectType id => s!"Object type {id} is not defined"
  | .unknownValueType id referencedBy =>
    s!"Value type {id} referenced by {referencedBy} is not defined"
  | .missingPrimaryKey object => s!"Object type {object} does not declare a primary key"
  | .unknownProperty property entity => s!"Property {property} does not exist on {entity}"
  | .duplicateProperty property entity =>
    s!"Property {property} is declared more than once on {entity}"
  | .conflictingPropertyType property interface first second =>
    s!"Property {property} resolves to conflicting types {first} and {second} " ++
      s!"in interface type {interface}"
  | .interfaceCycle interface path =>
    s!"Interface type {interface} extends itself through " ++
      " -> ".intercalate (path.map (·.text))
  | .unmappedInterfaceProperty property interface object =>
    s!"Required property {property} of interface type {interface} " ++
      s!"is not mapped by object type {object}"
  | .mappingTypeMismatch property interface objectProperty expected actual =>
    s!"Property {objectProperty} of type {actual} cannot implement {property} " ++
      s!"of type {expected} on interface type {interface}"

end Ontology
