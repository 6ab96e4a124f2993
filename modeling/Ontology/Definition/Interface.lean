import Ontology.Definition.SharedProperty
import Ontology.Inheritance

/-!
Definitions of interface types. An interface may bring shared property types with it. The whole
definition is staged on a copy of the registry first: it is accepted when the effective properties
of the interface resolve there, and only then the copy takes the place of the registry.
-/

set_option autoImplicit false
set_option relaxedAutoImplicit false

namespace Ontology

/-- A property of an interface as its author writes it. -/
inductive InterfacePropertyDraft where
  /-- A reference to a shared property type. -/
  | shared (name : Name) (required : Bool)
  /-- A shared property type that is defined together with the interface. -/
  | defined (name : Name) (type : PropertyType)
  /-- A property that only this interface has. -/
  | inline (name : Name) (type : PropertyType)

namespace InterfacePropertyDraft

/-- The declaration on the interface. What is defined or inlined is required. -/
def build (policy : NamingPolicy) : InterfacePropertyDraft → InterfaceProperty
  | .shared name required => .shared (policy.id name) required
  | .defined name _ => .shared (policy.id name) true
  | .inline name type => .inline (policy.id name) type (policy.id name).localName true

/-- The shared property type that the declaration brings with it, if any. -/
def sharedProperty? : InterfacePropertyDraft → Option SharedPropertyDraft
  | .defined name type => some { name, type }
  | _ => none

end InterfacePropertyDraft

/-- An interface type as its author writes it. -/
structure InterfaceDraft where
  name : Name
  displayName : Option String := none
  description : Option String := none
  parents : List Name := []
  properties : List InterfacePropertyDraft := []

namespace InterfaceDraft

/-- The interface that a draft describes; it is shown by its local name unless told otherwise. -/
def build (policy : NamingPolicy) (draft : InterfaceDraft) : InterfaceType :=
  let id := policy.id draft.name
  { id
    displayName := draft.displayName.getD id.localName
    description := draft.description
    parents := draft.parents.map policy.id
    properties := draft.properties.map (·.build policy) }

/-- The shared property types that a draft defines, in order. -/
def sharedProperties (policy : NamingPolicy) (draft : InterfaceDraft) : List SharedPropertyType :=
  (draft.properties.filterMap (·.sharedProperty?)).map (·.build policy)

/-- The registry with the interface and the shared property types that come with it. -/
def extendRegistry (policy : NamingPolicy) (registry : Registry) (draft : InterfaceDraft) :
    Registry :=
  ((draft.sharedProperties policy).foldl
    (fun registry type ↦ registry.register (.sharedPropertyType type)) registry).register
      (.interfaceType (draft.build policy))

/-- Accepts an interface that declares no property twice. -/
def checkDistinct (interface : InterfaceType) : Except SchemaError Unit :=
  match firstRepeated? [] (interface.properties.map (·.id)) with
  | none => .ok ()
  | some property => .error (.duplicateProperty property.text interface.id.text)

/-- Adds an interface type and the shared property types that it defines. -/
def declare (policy : NamingPolicy) (draft : InterfaceDraft) :
    Call SchemaError Registry Identifier := do
  let interface := draft.build policy
  SchemaError.ofNaming (policy.checkIds (interface.id :: interface.properties.map (·.id)))
  checkDistinct interface
  let staged := draft.extendRegistry policy (← get)
  let _ ← staged.interfaceProperties interface.id
  set staged
  return interface.id

/-- The registry with the interface type of a draft, and the shared property types that it
defines. -/
def define (policy : NamingPolicy) (registry : Registry) (draft : InterfaceDraft) :
    Except SchemaError Registry :=
  (draft.declare policy).after registry

end InterfaceDraft

end Ontology
