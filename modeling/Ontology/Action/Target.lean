import Ontology.Action.Draft
import Ontology.Action.Error
import Ontology.Inheritance

/-!
The target of a generated action with its properties. For an object these are the declared ones, for
an interface the effective ones; each property has a key that names it in definitions and a
parameter id, which for interfaces is the local name of the key. Two properties of an interface may
not share a parameter id.
-/

set_option autoImplicit false
set_option relaxedAutoImplicit false

namespace Ontology

/-- A property of a target. -/
structure TargetProperty where
  /-- The api name on an object, the identifier's text on an interface. -/
  key : String
  /-- The id of the parameter that fills the property. -/
  parameterId : String
  type : PropertyType
  displayName : String
deriving DecidableEq

/-- The entity that a generated action works on, with its properties. -/
structure ActionTarget where
  id : Identifier
  displayName : String
  isInterface : Bool
  /-- The key of the primary key. Interfaces have none. -/
  primaryKey : Option String
  properties : List TargetProperty
deriving DecidableEq

/-! ### Properties as targets -/

/-- A property of an object as a property of a target. -/
def ObjectProperty.toTarget (property : ObjectProperty) : TargetProperty :=
  ⟨property.apiName, property.apiName, property.type, property.displayName⟩

/-- An effective property of an interface as a property of a target. -/
def EffectiveProperty.toTarget (property : EffectiveProperty) : TargetProperty :=
  ⟨property.id.text, property.id.localName, property.type, property.displayName⟩

/-- Accepts effective properties that go by different parameter ids, and reports the first that
takes the id of an earlier one. -/
def checkParameterIds (earlier : List EffectiveProperty) :
    List EffectiveProperty → Except ActionError Unit
  | [] => .ok ()
  | property :: rest =>
    match earlier.find? (·.id.localName = property.id.localName) with
    | some first =>
      .error (.parameterIdCollision property.id.localName first.id property.id)
    | none => checkParameterIds (property :: earlier) rest

/-! ### Targets -/

namespace ActionTarget

/-- An object type as a target. -/
def ofObject (id : Identifier) (object : ObjectType) : ActionTarget where
  id := id
  displayName := object.displayName
  isInterface := false
  primaryKey := some object.primaryKey
  properties := object.properties.map (·.toTarget)

/-- An interface as a target, with its effective properties. -/
def ofInterface (id : Identifier) (interface : InterfaceType)
    (properties : List EffectiveProperty) : ActionTarget where
  id := id
  displayName := interface.displayName
  isInterface := true
  primaryKey := none
  properties := properties.map (·.toTarget)

/-- The target of an action in a registry. -/
def resolve (registry : Registry) : CrudTarget → Except ActionError ActionTarget
  | .object id =>
    match registry.objectType? id with
    | none => .error (.schema (.unknownObjectType id))
    | some object => .ok (ofObject id object)
  | .interface id =>
    match registry.interfaceType? id with
    | none => .error (.schema (.unknownInterfaceType id "action"))
    | some interface => do
      let properties ← ActionError.ofSchema (registry.interfaceProperties id)
      checkParameterIds [] properties
      return ofInterface id interface properties

/-- The property of a key. -/
def property? (target : ActionTarget) (key : String) : Option TargetProperty :=
  target.properties.find? (·.key = key)

/-- The property that a parameter id belongs to. -/
def propertyOfParameter? (target : ActionTarget) (id : String) : Option TargetProperty :=
  target.properties.find? (·.parameterId = id)

/-- The error of naming a property that the target does not have. -/
def unknownProperty (target : ActionTarget) (key : String) : ActionError :=
  if target.isInterface then .propertyNotInInterface key target.id
  else .unknownProperty key target.id

/-- The property of a key, which must exist. -/
def requireProperty (target : ActionTarget) (key : String) :
    Except ActionError TargetProperty :=
  match target.property? key with
  | none => .error (target.unknownProperty key)
  | some property => .ok property

end ActionTarget

end Ontology
