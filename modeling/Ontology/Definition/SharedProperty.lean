import Ontology.Call
import Ontology.Definition.Naming
import Ontology.Registry

/-!
Definitions of shared property types and value types. Names are qualified here, once. A draft is
declared by a call on the registry, which makes its checks, writes the entity, and gives its
identifier.
-/

set_option autoImplicit false
set_option relaxedAutoImplicit false

namespace Ontology

/-! ### Value types -/

/-- A value type as its author writes it. -/
structure ValueTypeDraft where
  name : Name
  version : String
  baseType : PropertyType
  displayName : Option String := none
  description : Option String := none

namespace ValueTypeDraft

/-- The value type that a draft describes; it is shown by its local name unless told otherwise. -/
def build (policy : NamingPolicy) (draft : ValueTypeDraft) : ValueType :=
  let id := policy.id draft.name
  { id
    version := draft.version
    baseType := draft.baseType
    displayName := draft.displayName.getD id.localName
    description := draft.description }

/-- Adds a value type. The naming rule holds for value types under every policy. -/
def declare (policy : NamingPolicy) (draft : ValueTypeDraft) :
    Call SchemaError Registry Identifier := do
  let type := draft.build policy
  SchemaError.ofNaming type.id.check
  modify (·.register (.valueType type))
  return type.id

/-- The registry with the value type of a draft. -/
def define (policy : NamingPolicy) (registry : Registry) (draft : ValueTypeDraft) :
    Except SchemaError Registry :=
  (draft.declare policy).after registry

end ValueTypeDraft

/-! ### Shared property types -/

/-- A shared property type as its author writes it. -/
structure SharedPropertyDraft where
  name : Name
  type : PropertyType
  displayName : Option String := none
  description : Option String := none
  /-- The name of the value type that narrows the property. -/
  valueType : Option Name := none

namespace SharedPropertyDraft

/-- The shared property type that a draft describes; it is shown by its local name unless told
otherwise. -/
def build (policy : NamingPolicy) (draft : SharedPropertyDraft) : SharedPropertyType :=
  let id := policy.id draft.name
  { id
    type := draft.type
    displayName := draft.displayName.getD id.localName
    description := draft.description
    valueType := draft.valueType.map policy.id }

/-- Accepts a shared property type whose value type, if it names one, is registered. -/
def checkValueType (registry : Registry) (type : SharedPropertyType) : Except SchemaError Unit :=
  match type.valueType with
  | none => .ok ()
  | some valueType =>
    if (registry.valueType? valueType).isSome then .ok ()
    else .error (.unknownValueType valueType type.id.text)

/-- Adds a shared property type. -/
def declare (policy : NamingPolicy) (draft : SharedPropertyDraft) :
    Call SchemaError Registry Identifier := do
  let type := draft.build policy
  SchemaError.ofNaming (policy.checkIds [type.id])
  checkValueType (← get) type
  modify (·.register (.sharedPropertyType type))
  return type.id

/-- The registry with the shared property type of a draft. -/
def define (policy : NamingPolicy) (registry : Registry) (draft : SharedPropertyDraft) :
    Except SchemaError Registry :=
  (draft.declare policy).after registry

end SharedPropertyDraft

end Ontology
