import Ontology.SchemaError
import Ontology.Literal
import Ontology.ParameterType

/-!
What can be wrong with the definition of an action, the wording of each cause, and the broad class
that a cause belongs to.
-/

set_option autoImplicit false
set_option relaxedAutoImplicit false

namespace Ontology

/-- The part that a parameter plays as the target of a rule. -/
inductive TargetRole where
  | objectToModify
  | objectToDelete
  | objectToCreateOrModify
  | interfaceObjectToModify
  | objectType
deriving DecidableEq

/-- The name of a role in messages. -/
def TargetRole.display : TargetRole → String
  | .objectToModify => "Object to modify"
  | .objectToDelete => "Object to delete"
  | .objectToCreateOrModify => "Object to create or modify"
  | .interfaceObjectToModify => "Interface object to modify"
  | .objectType => "Object type"

instance : ToString TargetRole := ⟨TargetRole.display⟩

/-- Why an action could not be compiled. -/
inductive ActionError where
  | schema (error : SchemaError)
  | undeclaredParameter (parameter : String) (entity : Identifier)
  | unknownProperty (property : String) (object : Identifier)
  | propertyNotInInterface (property : String) (interface : Identifier)
  | unknownConditionParameter (parameter : String)
  | undefinedParameters (parameters : List String)
  | defaultValueMismatch (parameter : String) (expected : ParameterType) (value : Literal)
  | conditionValueMismatch (subject : String) (expected : ParameterType) (value : Literal)
  | propertyValueMismatch (property : String) (expected : ParameterType) (value : Literal)
  | orderingMismatch (action : Identifier) (extraneous missing : List String)
  | missingTargetParameter (role : TargetRole)
  | unsupportedPropertyType (property : String) (type : PropertyType)
  | parameterIdCollision (parameter : String) (first second : Identifier)
  | duplicateParameter (parameter : String)
  | duplicateSection (id : String)
  | parameterInMultipleSections (parameter first second : String)
  | omittedPropertyParameter (parameter : String) (entity : Identifier)
  | primaryKeyNotModifiable (property : String) (object : Identifier)
  | invalidListLength (parameter : String) (min max : Nat)
  /-- The target of a rule has a type that its role does not admit. -/
  | targetParameterType (parameter : String) (role : TargetRole) (expected : String)

namespace ActionError

/-- The wording of an error. -/
def message : ActionError → String
  | .schema error => error.message
  | .undeclaredParameter parameter entity =>
    s!"Parameter {parameter} does not exist as a property on {entity} " ++
      "and its type is not explicitly defined"
  | .unknownProperty property object =>
    s!"Property {property} does not exist on object type {object}"
  | .propertyNotInInterface property interface =>
    s!"Shared property type {property} does not exist in interface type {interface}"
  | .unknownConditionParameter parameter =>
    s!"Action parameter condition references unknown parameter {parameter}"
  | .undefinedParameters parameters =>
    "Parameters [" ++ ", ".intercalate parameters ++ "] were referenced but not defined"
  | .defaultValueMismatch parameter expected _ =>
    s!"Default static value for parameter {parameter} does not match type {expected}"
  | .conditionValueMismatch subject expected value =>
    s!"Condition value {value} compared with {subject} does not match type {expected}"
  | .propertyValueMismatch property expected _ =>
    s!"Static value for property {property} does not match type {expected}"
  | .orderingMismatch action extraneous missing =>
    s!"Action parameter ordering for {action} does not match expected parameters. " ++
      "Extraneous parameters in ordering: \x7b" ++ ", ".intercalate extraneous ++
      "\x7d, Missing parameters in ordering: \x7b" ++ ", ".intercalate missing ++ "\x7d"
  | .missingTargetParameter role => s!"{role} parameter must be defined in parameters"
  | .unsupportedPropertyType property type =>
    s!"Property {property} of type {type} cannot be used as an action parameter"
  | .parameterIdCollision parameter first second =>
    s!"Interface properties {first} and {second} both map to parameter {parameter}"
  | .duplicateParameter parameter => s!"Parameter {parameter} is declared more than once"
  | .duplicateSection id => s!"Section {id} is declared more than once"
  | .parameterInMultipleSections parameter first second =>
    s!"Parameter {parameter} is placed in both section {first} and section {second}"
  | .omittedPropertyParameter parameter entity =>
    s!"Parameter {parameter} names a property of {entity} that this action leaves out " ++
      "and its type is not explicitly defined"
  | .primaryKeyNotModifiable property object =>
    s!"Property {property} is the primary key of {object} and cannot be modified"
  | .invalidListLength parameter min max =>
    s!"List length for parameter {parameter} has minimum {min} greater than maximum {max}"
  | .targetParameterType parameter role expected =>
    s!"Parameter {parameter} must reference {expected} to be used as {role}"

end ActionError

/-- The broad classes of errors in actions. -/
inductive ErrorCategory where
  /-- A name stands for nothing. -/
  | unknownReference
  /-- A value, an ordering or a layout has the wrong shape. -/
  | shapeMismatch
  /-- A parameter that the action cannot do without is missing or of no use. -/
  | structuralRequirement
  /-- A rule on an interface names a property outside it. -/
  | crossEntity
  /-- An entity that the action builds on is at fault. -/
  | registry
deriving DecidableEq

/-- The class of an error. -/
def ActionError.category : ActionError → ErrorCategory
  | .schema _ => .registry
  | .undeclaredParameter .. | .unknownProperty .. | .unknownConditionParameter _
  | .undefinedParameters _ => .unknownReference
  | .defaultValueMismatch .. | .conditionValueMismatch .. | .propertyValueMismatch ..
  | .orderingMismatch .. | .unsupportedPropertyType .. | .parameterIdCollision ..
  | .duplicateParameter _ | .duplicateSection _ | .parameterInMultipleSections ..
  | .invalidListLength .. => .shapeMismatch
  | .missingTargetParameter _ | .targetParameterType .. | .omittedPropertyParameter ..
  | .primaryKeyNotModifiable .. => .structuralRequirement
  | .propertyNotInInterface .. => .crossEntity

/-- Reports an error about entities as an error in an action. -/
def ActionError.ofSchema {α : Type} (result : Except SchemaError α) : Except ActionError α :=
  result.mapError .schema

end Ontology
