import Ontology.Action.Synthesis
import Ontology.LiteralTyping

/-!
The rules of actions and the values that they write. A generated rule binds every property of its
target to the value that it is fixed to, or else to the parameter of its id, and leaves it alone
where there is neither. `Rule.check` accepts a rule that is written by hand when its targets and
its bindings fit the parameters in scope and the registry.
-/

set_option autoImplicit false
set_option relaxedAutoImplicit false

namespace Ontology

/-! ### Values -/

/-- Accepts a value for a property: parameters must be in scope, a literal must have the type of the
property's parameter, and a property that is read through an object parameter must exist. -/
def ValueSource.check (registry : Registry) (scope : Scope) (property : String)
    (type : PropertyType) (value : ValueSource) : Except ActionError Unit := do
  checkDeclared scope.declares value.parameter?.toList
  match value with
  | .literal held =>
    match type.parameterType? with
    | none => throw (.unsupportedPropertyType property type)
    | some expected =>
      if expected.admits held then return
      else throw (.propertyValueMismatch property expected held)
  | .objectProperty holder source =>
    match scope.type? holder with
    | some (.objectReference objectType) =>
      match registry.objectType? objectType with
      | none => throw (.schema (.unknownObjectType objectType))
      | some object =>
        if object.hasProperty source then return
        else throw (.unknownProperty source objectType)
    | _ => return
  | .parameter _ | .currentUser | .currentTime => return

/-! ### Generated rules -/

namespace CrudDefinition

/-- The value that a property is bound to, if any. -/
def binding? (definition : CrudDefinition) (registry : Registry) (scope : Scope)
    (property : TargetProperty) : Except ActionError (Option (String × ValueSource)) :=
  match definition.fixedValue? property.key with
  | some value => do
    value.check registry scope property.key property.type
    return some (property.key, value)
  | none =>
    if scope.declares property.parameterId then
      .ok (some (property.key, .parameter property.parameterId))
    else .ok none

/-- The bindings of all properties in the order of their declaration, without a primary key that
stays as it is. -/
def bindings (definition : CrudDefinition) (registry : Registry) (scope : Scope)
    (target : ActionTarget) : Except ActionError (List (String × ValueSource)) := do
  let properties := target.properties.filter fun property ↦
    !definition.isKeptKey target property.key
  return (← properties.mapM (definition.binding? registry scope)).filterMap fun binding ↦ binding

/-- The bindings for a rule on objects. -/
def objectBindings (definition : CrudDefinition) (registry : Registry) (scope : Scope)
    (target : ActionTarget) : Except ActionError (List ObjectBinding) :=
  return (← definition.bindings registry scope target).map fun (key, value) ↦ ⟨key, value⟩

/-- The bindings for a rule on interfaces. -/
def interfaceBindings (definition : CrudDefinition) (registry : Registry) (scope : Scope)
    (target : ActionTarget) : Except ActionError (List InterfaceBinding) :=
  return (← definition.bindings registry scope target).map fun (key, value) ↦ ⟨⟨key⟩, value⟩

/-- The id of the structural parameter of a role, which must be in scope. -/
def structuralId (scope : Scope) (role : TargetRole) : Except ActionError String := do
  let _ ← scope.require role.parameterId role
  return role.parameterId

/-- The rule of a generated action. -/
def rule (definition : CrudDefinition) (registry : Registry) (scope : Scope)
    (target : ActionTarget) : Except ActionError Rule :=
  match target.isInterface, definition.kind with
  | false, .create =>
    return .addObject target.id (← definition.objectBindings registry scope target)
  | false, .modify =>
    return .modifyObject (← structuralId scope .objectToModify)
      (← definition.objectBindings registry scope target)
  | false, .createOrModify =>
    return .addOrModifyObject (← structuralId scope .objectToCreateOrModify)
      (← definition.objectBindings registry scope target)
  | _, .delete => return .deleteObject (← structuralId scope .objectToDelete)
  | true, .create =>
    return .addInterface target.id (← structuralId scope .objectType)
      (← definition.interfaceBindings registry scope target)
  | true, .modify =>
    return .modifyInterface target.id (← structuralId scope .interfaceObjectToModify) none
      (← definition.interfaceBindings registry scope target)
  | true, .createOrModify => do
    let objectType ← structuralId scope .objectType
    return .modifyInterface target.id (← structuralId scope .interfaceObjectToModify)
      (some objectType) (← definition.interfaceBindings registry scope target)

end CrudDefinition

/-! ### Rules written by hand -/

namespace Rule

/-- The object type behind the target of a rule on objects. -/
def targetObject (scope : Scope) (parameter : String) (role : TargetRole) :
    Except ActionError Identifier := do
  match ← scope.require parameter role with
  | .objectReference objectType => return objectType
  | _ => throw (.targetParameterType parameter role "an object")

/-- Accepts bindings of properties that an object type has. -/
def checkObjectBindings (registry : Registry) (scope : Scope) (objectType : Identifier)
    (bindings : List ObjectBinding) : Except ActionError Unit :=
  match registry.objectType? objectType with
  | none => .error (.schema (.unknownObjectType objectType))
  | some object => bindings.forM fun binding ↦
    match object.property? binding.property with
    | none => .error (.unknownProperty binding.property objectType)
    | some property => binding.value.check registry scope binding.property property.type

/-- Accepts bindings of properties that an interface has. -/
def checkInterfaceBindings (registry : Registry) (scope : Scope) (interfaceType : Identifier)
    (bindings : List InterfaceBinding) : Except ActionError Unit := do
  let effective ← ActionError.ofSchema (registry.interfaceProperties interfaceType)
  bindings.forM fun binding ↦
    match effective.find? (·.id = binding.property) with
    | none => .error (.propertyNotInInterface binding.property.text interfaceType)
    | some property => binding.value.check registry scope binding.property.text property.type

/-- Accepts a rule whose targets are parameters in scope and whose bindings fit. -/
def check (registry : Registry) (scope : Scope) : Rule → Except ActionError Unit
  | .addObject objectType values => checkObjectBindings registry scope objectType values
  | .modifyObject target values => do
    checkObjectBindings registry scope (← targetObject scope target .objectToModify) values
  | .addOrModifyObject target values => do
    checkObjectBindings registry scope (← targetObject scope target .objectToCreateOrModify) values
  | .deleteObject target => do
    match ← scope.require target .objectToDelete with
    | .objectReference _ | .interfaceReference _ => return
    | _ => throw (.targetParameterType target .objectToDelete "an object or interface")
  | .addInterface interfaceType objectType values => do
    let _ ← scope.require objectType .objectType
    checkInterfaceBindings registry scope interfaceType values
  | .modifyInterface interfaceType target objectType values => do
    let _ ← scope.require target .interfaceObjectToModify
    if let some objectType := objectType then
      let _ ← scope.require objectType .objectType
    checkInterfaceBindings registry scope interfaceType values

end Rule

end Ontology
