import Ontology.Namespace
import Ontology.PropertyType

/-!
The entities that describe data: shared property types, interface types, object types and value
types, together with the submission restrictions of actions. These are plain records; whether the
names in them are defined is a question to a registry.
-/

set_option autoImplicit false
set_option relaxedAutoImplicit false

namespace Ontology

/-! ### Shared property types and value types -/

/-- A property that interfaces and objects share. -/
structure SharedPropertyType where
  id : Identifier
  type : PropertyType
  displayName : String
  description : Option String
  /-- The value type that narrows the property. -/
  valueType : Option Identifier
deriving DecidableEq

/-- A named and versioned refinement of a property type. -/
structure ValueType where
  id : Identifier
  version : String
  baseType : PropertyType
  displayName : String
  description : Option String
deriving DecidableEq

/-! ### Interface types -/

/-- A property that an interface declares. -/
inductive InterfaceProperty where
  /-- A reference to a shared property type. -/
  | shared (id : Identifier) (required : Bool)
  /-- A property that the interface defines itself. -/
  | inline (id : Identifier) (type : PropertyType) (displayName : String) (required : Bool)
deriving DecidableEq

namespace InterfaceProperty

/-- The identifier that the property is addressed by. -/
def id : InterfaceProperty → Identifier
  | .shared id _ => id
  | .inline id _ _ _ => id

/-- Whether implementing objects must map the property. -/
def required : InterfaceProperty → Bool
  | .shared _ required => required
  | .inline _ _ _ required => required

end InterfaceProperty

/-- An interface: properties of its own, and the parents that it extends. -/
structure InterfaceType where
  id : Identifier
  displayName : String
  description : Option String
  parents : List Identifier
  properties : List InterfaceProperty
deriving DecidableEq

/-- The property that an interface itself declares under an identifier. -/
def InterfaceType.property? (interface : InterfaceType) (id : Identifier) :
    Option InterfaceProperty :=
  interface.properties.find? (·.id = id)

/-! ### Object types -/

/-- A property of an object type. -/
structure ObjectProperty where
  apiName : String
  type : PropertyType
  displayName : String
  description : Option String
  /-- The shared property type behind the property. -/
  sharedPropertyType : Option Identifier
deriving DecidableEq

/-- An interface property and the object property that stands for it. -/
structure PropertyMapping where
  interfaceProperty : Identifier
  objectProperty : String
deriving DecidableEq

/-- An interface that an object type implements, with the mapping of its properties. -/
structure Implementation where
  interface : Identifier
  mappings : List PropertyMapping
deriving DecidableEq

/-- A type of objects. -/
structure ObjectType where
  id : Identifier
  displayName : String
  pluralDisplayName : String
  description : Option String
  primaryKey : String
  titleProperty : String
  properties : List ObjectProperty
  implements : List Implementation
deriving DecidableEq

/-- A property and the column of the data source that holds it. -/
structure Column where
  property : String
  column : String
deriving DecidableEq

namespace ObjectType

/-- The property of an api name. -/
def property? (object : ObjectType) (apiName : String) : Option ObjectProperty :=
  object.properties.find? (·.apiName = apiName)

/-- Whether the object type has a property of an api name. -/
def hasProperty (object : ObjectType) (apiName : String) : Bool :=
  (object.property? apiName).isSome

/-- The api names of the properties in the order of their declaration. -/
def propertyNames (object : ObjectType) : List String := object.properties.map (·.apiName)

/-- Whether the object type lists an interface among those it implements. -/
def implementsInterface (object : ObjectType) (interface : Identifier) : Bool :=
  object.implements.any (·.interface = interface)

/-- The columns of the data source: one for each property, under the property's own name. -/
def columns (object : ObjectType) : List Column :=
  object.propertyNames.map fun name ↦ ⟨name, name⟩

end ObjectType

/-! ### Submission restrictions -/

/-- The groups that may submit an action. -/
structure ActionPermission where
  actionType : Identifier
  submitterGroups : List String
deriving DecidableEq

end Ontology
