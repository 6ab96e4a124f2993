import Ontology.Call
import Ontology.Definition.Naming
import Ontology.Inheritance

/-!
Definitions of object types. The properties are settled first, those behind which a shared property
type stands with its type and display name. The primary key and the title must be among them. Then
each implemented interface is checked: the mappings that are written down must pair existing
properties of one type, and what they leave open is completed from the shared property types behind
the object's properties.
-/

set_option autoImplicit false
set_option relaxedAutoImplicit false

namespace Ontology

/-- A property of an object as its author writes it. -/
inductive ObjectPropertyDraft where
  | declared (property : ObjectProperty)
  /-- A property that takes its type and display name from a shared property type. -/
  | shared (apiName : String) (name : Name)

/-- The api name of a drafted property. -/
def ObjectPropertyDraft.apiName : ObjectPropertyDraft → String
  | .declared property => property.apiName
  | .shared apiName _ => apiName

/-- An implementation of an interface as its author writes it. -/
structure ImplementationDraft where
  interface : Name
  /-- Interface properties and the object properties that stand for them. -/
  mappings : List (Name × String) := []

/-- An object type as its author writes it. -/
structure ObjectDraft where
  name : Name
  displayName : Option String := none
  pluralDisplayName : Option String := none
  description : Option String := none
  primaryKey : Option String := none
  titleProperty : Option String := none
  properties : List ObjectPropertyDraft := []
  implements : List ImplementationDraft := []

/-! ### Properties -/

namespace ObjectPropertyDraft

/-- The property of an object that a draft describes. -/
def build (policy : NamingPolicy) (registry : Registry) (object : Identifier) :
    ObjectPropertyDraft → Except SchemaError ObjectProperty
  | .declared property => .ok property
  | .shared apiName name =>
    let id := policy.id name
    match registry.sharedPropertyType? id with
    | none => .error (.unknownSharedPropertyType id object.text)
    | some behind =>
      .ok
        { apiName
          type := behind.type
          displayName := behind.displayName
          description := none
          sharedPropertyType := some id }

/-- The properties of an object in order; the first one that repeats an api name or cannot be built
is an error. -/
def buildAll (policy : NamingPolicy) (registry : Registry) (object : Identifier)
    (earlier : List String) :
    List ObjectPropertyDraft → Except SchemaError (List ObjectProperty)
  | [] => .ok []
  | draft :: rest => do
    if draft.apiName ∈ earlier then
      throw (.duplicateProperty draft.apiName object.text)
    let property ← draft.build policy registry object
    return property :: (← buildAll policy registry object (draft.apiName :: earlier) rest)

end ObjectPropertyDraft

/-! ### Implementations -/

namespace Implementation

/-- Accepts a mapping between existing properties of one type. -/
def checkMapping (object interface : Identifier) (properties : List ObjectProperty)
    (effective : List EffectiveProperty) (mapping : PropertyMapping) :
    Except SchemaError Unit := do
  let some expected := effective.find? (·.id = mapping.interfaceProperty)
    | throw (.unknownProperty mapping.interfaceProperty.text interface.text)
  let some actual := properties.find? (·.apiName = mapping.objectProperty)
    | throw (.unknownProperty mapping.objectProperty object.text)
  if expected.type ≠ actual.type then
    throw (.mappingTypeMismatch expected.id interface actual.apiName expected.type actual.type)

/-- The mappings so far, completed for one effective property: by the first property of the object
that the same shared property type stands behind. A required property must get a mapping. -/
def completeMapping (object interface : Identifier) (properties : List ObjectProperty)
    (mappings : List PropertyMapping) (property : EffectiveProperty) :
    Except SchemaError (List PropertyMapping) :=
  if mappings.any (·.interfaceProperty = property.id) then .ok mappings
  else
    match properties.find? (·.sharedPropertyType = some property.id) with
    | some backing => .ok (mappings ++ [⟨property.id, backing.apiName⟩])
    | none =>
      if property.required then
        .error (.unmappedInterfaceProperty property.id interface object)
      else .ok mappings

/-- The implementation of an interface by an object, from the mappings that are written down. -/
def resolve (registry : Registry) (object interface : Identifier)
    (properties : List ObjectProperty) (mappings : List PropertyMapping) :
    Except SchemaError Implementation := do
  let effective ← registry.interfaceProperties interface
  mappings.forM (checkMapping object interface properties effective)
  let completed ← effective.foldlM (completeMapping object interface properties) mappings
  return ⟨interface, completed⟩

end Implementation

/-! ### Object types -/

namespace ObjectDraft

/-- Accepts the api name of a property that the object has. -/
def checkProperty (object : Identifier) (properties : List ObjectProperty) (name : String) :
    Except SchemaError Unit :=
  if properties.any (·.apiName = name) then .ok ()
  else .error (.unknownProperty name object.text)

/-- The object type that a draft describes. The primary key is the title, the local name is shown,
and the plural adds an s, unless told otherwise. -/
def build (policy : NamingPolicy) (registry : Registry) (draft : ObjectDraft) :
    Except SchemaError ObjectType := do
  let id := policy.id draft.name
  SchemaError.ofNaming (policy.checkIds [id])
  SchemaError.ofNaming (policy.checkApiNames (draft.properties.map (·.apiName)))
  let properties ← ObjectPropertyDraft.buildAll policy registry id [] draft.properties
  let some primaryKey := draft.primaryKey
    | throw (.missingPrimaryKey id)
  checkProperty id properties primaryKey
  let titleProperty := draft.titleProperty.getD primaryKey
  checkProperty id properties titleProperty
  let implementations ← draft.implements.mapM fun implementation ↦
    Implementation.resolve registry id (policy.id implementation.interface) properties
      (implementation.mappings.map fun (interfaceProperty, objectProperty) ↦
        ⟨policy.id interfaceProperty, objectProperty⟩)
  let displayName := draft.displayName.getD id.localName
  return {
    id
    displayName
    pluralDisplayName := draft.pluralDisplayName.getD (displayName ++ "s")
    description := draft.description
    primaryKey
    titleProperty
    properties
    implements := implementations
  }

/-- Adds an object type. -/
def declare (policy : NamingPolicy) (draft : ObjectDraft) :
    Call SchemaError Registry Identifier := do
  let object ← draft.build policy (← get)
  modify (·.register (.objectType object))
  return policy.id draft.name

/-- The registry with the object type of a draft. -/
def define (policy : NamingPolicy) (registry : Registry) (draft : ObjectDraft) :
    Except SchemaError Registry :=
  (draft.declare policy).after registry

end ObjectDraft

end Ontology
