import Ontology.Definition.Action
import Ontology.Definition.Interface
import Ontology.Definition.Object
import Ontology.Emission.Dump

/-!
Sessions: a naming policy and the registry that define calls read and write. `Session.declare` is
the call that makes one definition of any kind. It works on the registry of the session in place, so
whatever a definition that fails has written is still there. `Session.declareAll` makes definitions
in order up to the first that fails.
-/

set_option autoImplicit false
set_option relaxedAutoImplicit false

namespace Ontology

/-- Why a session refused a definition. -/
inductive SessionError where
  | naming (error : NameError)
  | schema (error : SchemaError)
  | action (error : ActionError)

namespace SessionError

/-- The wording of an error. -/
def message : SessionError → String
  | .naming error => error.message
  | .schema error => error.message
  | .action error => error.message

/-- The error of a compilation, if it is one. -/
def action? : SessionError → Option ActionError
  | .action error => some error
  | _ => none

end SessionError

/-! ### Definitions of every kind -/

/-- One definition that a session can be asked to make. -/
inductive Definition where
  | sharedProperty (draft : SharedPropertyDraft)
  | valueType (draft : ValueTypeDraft)
  | interfaceType (draft : InterfaceDraft)
  | objectType (draft : ObjectDraft)
  | generatedAction (draft : CrudDraft)
  | manualAction (draft : ManualDraft)

namespace Definition

/-- The kind of entity that is defined. -/
def kind : Definition → EntityKind
  | .sharedProperty _ => .sharedPropertyType
  | .valueType _ => .valueType
  | .interfaceType _ => .interfaceType
  | .objectType _ => .objectType
  | .generatedAction _ | .manualAction _ => .actionType

/-- The identifier of the entity that is defined. -/
def id (policy : NamingPolicy) : Definition → Identifier
  | .sharedProperty draft => policy.id draft.name
  | .valueType draft => policy.id draft.name
  | .interfaceType draft => policy.id draft.name
  | .objectType draft => policy.id draft.name
  | .generatedAction draft => draft.actionId policy
  | .manualAction draft => policy.id draft.name

/-- Adds what is defined to a registry. -/
def declare (policy : NamingPolicy) : Definition → Call SessionError Registry Identifier
  | .sharedProperty draft => (draft.declare policy).adaptExcept .schema
  | .valueType draft => (draft.declare policy).adaptExcept .schema
  | .interfaceType draft => (draft.declare policy).adaptExcept .schema
  | .objectType draft => (draft.declare policy).adaptExcept .schema
  | .generatedAction draft => do
    let definition := draft.qualify policy
    (policy.checkIds [definition.id]).mapError SessionError.naming
    (policy.checkApiNames (definition.configuration.map (·.1))).mapError SessionError.naming
    let compiled ← (definition.compile (← get)).mapError SessionError.action
    compiled.enroll
  | .manualAction draft => do
    let definition := draft.qualify policy
    (policy.checkIds [definition.id]).mapError SessionError.naming
    (policy.checkApiNames (definition.parameters.map (·.id))).mapError SessionError.naming
    let compiled ← (definition.compile (← get)).mapError SessionError.action
    compiled.enroll

/-- The registry after a definition. -/
def apply (policy : NamingPolicy) (registry : Registry) (definition : Definition) :
    Except SessionError Registry :=
  (definition.declare policy).after registry

end Definition

/-! ### Sessions -/

/-- What a session is started with. -/
structure SessionOptions where
  /-- The qualifier of the session's names, with or without its final dot. -/
  qualifier : String := ""
  randomnessKey : Option String := none
  /-- Whether names that break the naming rules are refused. -/
  strict : Bool := true
deriving DecidableEq

/-- A session in progress. -/
structure Session where
  options : SessionOptions
  policy : NamingPolicy
  registry : Registry

namespace Session

/-- A session without entities. -/
def start (options : SessionOptions) : Except SessionError Session := do
  let space ← (Namespace.ofText options.qualifier).mapError .naming
  return ⟨options, ⟨space, options.strict⟩, .empty⟩

/-- Makes one definition on the registry of the session. -/
def declare (definition : Definition) : Call SessionError Session Identifier := fun session ↦
  match (definition.declare session.policy).run session.registry with
  | .ok id registry => .ok id { session with registry }
  | .error error registry => .error error { session with registry }

/-- The session after one definition. -/
def define (session : Session) (definition : Definition) : Except SessionError Session :=
  (declare definition).after session

/-- The session with an entity that stands for reference only. -/
def addImported (session : Session) (entity : Entity) : Session :=
  { session with registry := session.registry.addImported entity }

/-- The session without its entities. -/
def reset (session : Session) : Session := { session with registry := .empty }

/-- Makes definitions in order. -/
def declareAll : List Definition → Call SessionError Session Unit
  | [] => return
  | definition :: rest => do
    let _ ← declare definition
    declareAll rest

/-- The session after definitions in order, up to the first that fails, and that failure. -/
def run (session : Session) (definitions : List Definition) :
    Session × Except SessionError Unit :=
  (declareAll definitions).outcome session

/-- The snapshot of the session. -/
def dump (session : Session) : Dump := session.registry.dump session.options.randomnessKey

/-- The snapshot of the session as indented JSON. -/
def jsonText (session : Session) : String := session.dump.toJson.pretty

end Session

/-- The snapshot of a fresh session after a call on it. -/
def defineOntology (options : SessionOptions) (body : Call SessionError Session Unit) :
    Except SessionError Dump := do
  let session ← Session.start options
  let final ← body.after session
  return final.dump

end Ontology
