import Ontology.Action.Compilation
import Ontology.Call
import Ontology.Definition.Naming

/-!
Definitions of actions by name. Names of entities are qualified under the session's policy; the
keys of interface properties are names too and are qualified, those of object properties stand as
written. Registering an action settles who may submit it: the new restriction takes the place of
the one before, also when there is none.
-/

set_option autoImplicit false
set_option relaxedAutoImplicit false

namespace Ontology

/-! ### Generated actions -/

/-- The target of a generated action as its author writes it. -/
inductive NamedTarget where
  | object (name : Name)
  | interface (name : Name)

namespace NamedTarget

/-- The target that is named. -/
def qualify (policy : NamingPolicy) : NamedTarget → CrudTarget
  | .object name => .object (policy.id name)
  | .interface name => .interface (policy.id name)

/-- The key of a property of the target. -/
def propertyKey (policy : NamingPolicy) (target : NamedTarget) (property : Name) : String :=
  match target with
  | .object _ => property.text
  | .interface _ => (policy.id property).text

end NamedTarget

/-- A generated action as its author writes it. -/
structure CrudDraft extends ActionFrame where
  kind : CrudKind
  target : NamedTarget
  /-- The name of the action, where it is not the one that its kind and target give. -/
  apiName : Option Name := none
  excluded : List Name := []
  configuration : List (String × ParameterDraft) := []
  fixedValues : List (Name × ValueSource) := []

namespace CrudDraft

/-- The identifier of the action. -/
def actionId (policy : NamingPolicy) (draft : CrudDraft) : Identifier :=
  policy.id <| draft.apiName.getD <|
    .auto ((draft.target.qualify policy).defaultApiName draft.kind)

/-- The definition with all names qualified. -/
def qualify (policy : NamingPolicy) (draft : CrudDraft) : CrudDefinition where
  toActionFrame := draft.toActionFrame
  id := draft.actionId policy
  kind := draft.kind
  target := draft.target.qualify policy
  excluded := draft.excluded.map (draft.target.propertyKey policy)
  configuration := draft.configuration
  fixedValues := draft.fixedValues.map fun (property, value) ↦
    (draft.target.propertyKey policy property, value)

end CrudDraft

/-! ### Actions spelled out -/

/-- An action that is spelled out, as its author writes it. -/
structure ManualDraft extends ActionFrame where
  name : Name
  parameters : List ManualParameter := []
  rules : List Rule := []

/-- The definition with its name qualified. -/
def ManualDraft.qualify (policy : NamingPolicy) (draft : ManualDraft) : ManualDefinition where
  toActionFrame := draft.toActionFrame
  id := policy.id draft.name
  parameters := draft.parameters
  rules := draft.rules

/-! ### Registration -/

namespace CompiledAction

/-- The registry with a compiled action and the restriction on its submission. -/
def register (registry : Registry) (compiled : CompiledAction) : Registry :=
  let registered := registry.register (.actionType compiled.actionType)
  match compiled.permission with
  | some permission => registered.restrict permission
  | none => registered.unrestrict compiled.actionType.id

/-- Adds a compiled action, and then the restriction on its submission. -/
def enroll {ε : Type} (compiled : CompiledAction) : Call ε Registry Identifier := do
  modify (·.register (.actionType compiled.actionType))
  match compiled.permission with
  | some permission => modify (·.restrict permission)
  | none => modify (·.unrestrict compiled.actionType.id)
  return compiled.actionType.id

end CompiledAction

end Ontology
