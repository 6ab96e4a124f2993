import Ontology.Action.Target
import Ontology.Action.Scope

/-!
The parameters of a generated action: first those that its kind and target demand, then one for
every property that is to be filled in, then those that the author adds with a type of their own.
`synthesize` puts them together; `structuralParameters` is the table of the first group.
-/

set_option autoImplicit false
set_option relaxedAutoImplicit false

namespace Ontology

/-- A parameter before its settings are worked out. -/
structure ParameterSketch where
  id : String
  displayName : String
  description : Option String
  type : ParameterType
  /-- Whether a value must be given, before the author's settings. -/
  required : Bool
deriving DecidableEq

/-! ### Structural parameters -/

/-- The id of the parameter that plays a role. An object to delete may be chosen through an
interface as well. -/
def TargetRole.parameterId : TargetRole → String
  | .objectToModify => "objectToModifyParameter"
  | .objectToDelete => "objectToDeleteParameter"
  | .objectToCreateOrModify => "objectToCreateOrModifyParameter"
  | .interfaceObjectToModify => "interfaceObjectToModifyParameter"
  | .objectType => "objectTypeParameter"

/-- The display name of the parameter that plays a role. -/
def TargetRole.parameterDisplay : TargetRole → String
  | .objectToModify => "Modify object"
  | .objectToDelete => "Delete object"
  | .objectToCreateOrModify => "Create or modify object"
  | .interfaceObjectToModify => "Interface object to modify"
  | .objectType => "Object type to create"

/-- The parameter that plays a role. -/
def TargetRole.sketch (role : TargetRole) (type : ParameterType) (required : Bool) :
    ParameterSketch :=
  ⟨role.parameterId, role.parameterDisplay, none, type, required⟩

/-- The parameters that an action of a kind needs to know what it works on. Where it creates or
modifies, nothing need be chosen: an empty target stands for a new object. -/
def structuralParameters (kind : CrudKind) (target : ActionTarget) : List ParameterSketch :=
  if target.isInterface then
    match kind with
    | .create => [TargetRole.objectType.sketch (.objectTypeReference [target.id]) true]
    | .modify => [TargetRole.interfaceObjectToModify.sketch (.interfaceReference target.id) true]
    | .delete => [TargetRole.objectToDelete.sketch (.interfaceReference target.id) true]
    | .createOrModify =>
      [TargetRole.interfaceObjectToModify.sketch (.interfaceReference target.id) false,
        TargetRole.objectType.sketch (.objectTypeReference [target.id]) false]
  else
    match kind with
    | .create => []
    | .modify => [TargetRole.objectToModify.sketch (.objectReference target.id) true]
    | .delete => [TargetRole.objectToDelete.sketch (.objectReference target.id) true]
    | .createOrModify =>
      [TargetRole.objectToCreateOrModify.sketch (.objectReference target.id) false]

namespace CrudDefinition

/-! ### Property parameters -/

/-- Whether a property is the primary key of objects that the action modifies. -/
def isKeptKey (definition : CrudDefinition) (target : ActionTarget) (key : String) : Bool :=
  definition.kind = .modify && !target.isInterface && target.primaryKey = some key

/-- Accepts a key of a property that the action may leave out or fix. -/
def checkPropertyKey (definition : CrudDefinition) (target : ActionTarget) (key : String) :
    Except ActionError Unit := do
  let _ ← target.requireProperty key
  if definition.isKeptKey target key then
    throw (.primaryKeyNotModifiable key target.id)

/-- Whether a property gets a parameter: not when the action deletes, nor when the property is
excluded or fixed or is a primary key that stays. -/
def takesParameter (definition : CrudDefinition) (target : ActionTarget)
    (property : TargetProperty) : Bool :=
  definition.kind ≠ .delete && !definition.isKeptKey target property.key &&
    property.key ∉ definition.excluded && (definition.fixedValue? property.key).isNone

/-- The type of the parameter of a property: the one that the author gives, or else the one that
goes with the type of the property. -/
def propertyParameterType (definition : CrudDefinition) (property : TargetProperty) :
    Except ActionError ParameterType :=
  match (definition.configuration? property.parameterId).bind (·.type) with
  | some type => .ok type
  | none =>
    match property.type.parameterType? with
    | some type => .ok type
    | none => .error (.unsupportedPropertyType property.key property.type)

/-- The parameter of a property. -/
def propertyParameter (definition : CrudDefinition) (property : TargetProperty) :
    Except ActionError ParameterSketch :=
  return ⟨property.parameterId, property.displayName, none,
    ← definition.propertyParameterType property, false⟩

/-! ### Added parameters -/

/-- The parameter that a configuration entry adds. An entry without a type must belong to a
parameter that exists already. -/
def addedParameter (target : ActionTarget) (id : String) (draft : ParameterDraft) :
    Except ActionError ParameterSketch :=
  match draft.type with
  | some type =>
    .ok ⟨id, draft.displayName.getD id, draft.description, type, draft.required.getD false⟩
  | none =>
    if (target.propertyOfParameter? id).isSome then
      .error (.omittedPropertyParameter id target.id)
    else .error (.undeclaredParameter id target.id)

/-- The parameters that the configuration adds to the existing ones, in its order. -/
def addedParameters (target : ActionTarget) (existing earlier : List String) :
    List (String × ParameterDraft) → Except ActionError (List ParameterSketch)
  | [] => .ok []
  | (id, draft) :: rest => do
    if id ∈ earlier then throw (.duplicateParameter id)
    if id ∈ existing then addedParameters target existing (id :: earlier) rest
    else
      let parameter ← addedParameter target id draft
      return parameter :: (← addedParameters target existing (id :: earlier) rest)

/-! ### All parameters -/

/-- A parameter under the display name and description that the author gives it. -/
def relabel (definition : CrudDefinition) (parameter : ParameterSketch) : ParameterSketch :=
  match definition.configuration? parameter.id with
  | none => parameter
  | some draft =>
    { parameter with
      displayName := draft.displayName.getD parameter.displayName
      description := draft.description.or parameter.description }

/-- The parameters of a generated action: structural ones, those of properties in the order of
their declaration, and added ones in the order of the configuration. -/
def synthesize (definition : CrudDefinition) (target : ActionTarget) :
    Except ActionError (List ParameterSketch) := do
  (definition.excluded ++ definition.fixedValues.map (·.1)).forM
    (definition.checkPropertyKey target)
  let ofProperties ← (target.properties.filter (definition.takesParameter target)).mapM
    definition.propertyParameter
  let existing := structuralParameters definition.kind target ++ ofProperties
  let added ← addedParameters target (existing.map (·.id)) [] definition.configuration
  return (existing ++ added).map definition.relabel

end CrudDefinition

end Ontology
