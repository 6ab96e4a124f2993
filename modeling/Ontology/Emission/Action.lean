import Ontology.Emission.Value
import Ontology.ActionType

/-!
The JSON form of action types and their parts. Operators are written in capitals, all other names in
camel case.
-/

set_option autoImplicit false
set_option relaxedAutoImplicit false

namespace Ontology

/-! ### Conditions -/

/-- The name of an operator. -/
def Operator.name : Operator → String
  | .equals => "EQUALS"
  | .notEquals => "NOT_EQUALS"
  | .lessThan => "LESS_THAN"
  | .lessThanOrEquals => "LESS_THAN_OR_EQUALS"
  | .greaterThan => "GREATER_THAN"
  | .greaterThanOrEquals => "GREATER_THAN_OR_EQUALS"
  | .intersects => "INTERSECTS"
  | .includes => "INCLUDES"
  | .isIncludedIn => "IS_INCLUDED_IN"
  | .matchesPattern => "MATCHES"
  | .startsWith => "STARTS_WITH"

/-- The JSON form of a user. -/
def UserReference.toJson : UserReference → Json
  | .currentUser => .tagged "currentUser" []
  | .parameter id => .tagged "parameter" [("parameterId", .string id)]

/-- The JSON form of a property of a user. -/
def UserProperty.toJson : UserProperty → Json
  | .userId => .tagged "userId" []
  | .username => .tagged "username" []
  | .email => .tagged "email" []
  | .organization => .tagged "organization" []
  | .groupIds => .tagged "groupIds" []
  | .attribute name => .tagged "attribute" [("name", .string name)]

/-- The JSON form of a side of a comparison. -/
def Operand.toJson : Operand → Json
  | .parameter id => .tagged "parameterId" [("parameterId", .string id)]
  | .literal value => .tagged "staticValue" [("value", value.toJson)]
  | .userProperty user property =>
    .tagged "userProperty" [("user", user.toJson), ("property", property.toJson)]

namespace Condition

mutual

/-- The JSON form of a condition. -/
def toJson : Condition → Json
  | .always => .tagged "true" []
  | .comparison operator left right =>
    .tagged "comparison"
      [("operator", .string operator.name), ("left", left.toJson), ("right", right.toJson)]
  | .all conditions => .tagged "and" [("conditions", .array (listToJson conditions))]
  | .any conditions => .tagged "or" [("conditions", .array (listToJson conditions))]

/-- The JSON forms of several conditions. -/
def listToJson : List Condition → List Json
  | [] => []
  | condition :: rest => toJson condition :: listToJson rest

end

end Condition

/-! ### Parameters -/

/-- The name of a form control. -/
def RenderHint.name : RenderHint → String
  | .dropdown => "dropdown"
  | .radioButtons => "radioButtons"
  | .checkbox => "checkbox"
  | .textInput => "textInput"
  | .textArea => "textArea"
  | .numericInput => "numericInput"
  | .dateTimePicker => "dateTimePicker"
  | .filePicker => "filePicker"
  | .mandatoryMarkingPicker => "mandatoryMarkingPicker"
  | .mediaUploader => "mediaUploader"
  | .geohashInput => "geohashInput"
  | .geoshapeInput => "geoshapeInput"
  | .userDropdown => "userDropdown"
  | .groupDropdown => "groupDropdown"

/-- The name of a visibility. -/
def Visibility.name : Visibility → String
  | .editable => "editable"
  | .readOnly => "readOnly"
  | .hidden => "hidden"

/-- An optional length as a number or null. -/
def lengthToJson (length : Option Nat) : Json :=
  Json.ofOption (fun value ↦ .integer value) length

/-- An optional bound as a literal or null. -/
def boundToJson (bound : Option Literal) : Json := Json.ofOption Literal.toJson bound

/-- The JSON form of the values that a parameter accepts. -/
def AllowedValues.toJson : AllowedValues → Json
  | .boolean => .tagged "boolean" []
  | .text minLength maxLength =>
    .tagged "text" [("minLength", lengthToJson minLength), ("maxLength", lengthToJson maxLength)]
  | .range min max => .tagged "range" [("min", boundToJson min), ("max", boundToJson max)]
  | .datetime min max => .tagged "datetime" [("min", boundToJson min), ("max", boundToJson max)]
  | .geohash => .tagged "geohash" []
  | .geoshape => .tagged "geoshape" []
  | .attachment => .tagged "attachment" []
  | .marking => .tagged "marking" []
  | .mediaReference => .tagged "mediaReference" []
  | .geotimeSeriesReference => .tagged "geotimeSeriesReference" []
  | .struct fields => .tagged "struct" [("fields", Json.strings fields)]
  | .objectQuery objectType => .tagged "objectQuery" [("objectType", objectType.toJson)]
  | .interfaceObjectQuery interfaceType =>
    .tagged "interfaceObjectQuery" [("interfaceType", interfaceType.toJson)]
  | .objectTypeReference interfaceTypes =>
    .tagged "objectTypeReference" [("interfaceTypes", Identifier.listToJson interfaceTypes)]
  | .objectSet objectType => .tagged "objectSet" [("objectType", objectType.toJson)]
  | .user => .tagged "user" []
  | .group => .tagged "group" []
  | .oneOf values => .tagged "oneOf" [("values", .array (Literal.listToJson values))]

/-- The JSON form of a requirement. -/
def Requirement.toJson : Requirement → Json
  | .flag required => .tagged "required" [("required", .boolean required)]
  | .listLength min max =>
    .tagged "listLength" [("min", lengthToJson min), ("max", lengthToJson max)]

/-- The JSON form of a prefill. -/
def Prefill.toJson : Prefill → Json
  | .literal value => .tagged "staticValue" [("value", value.toJson)]
  | .objectProperty holder property =>
    .tagged "objectParameterPropertyValue"
      [("parameterId", .string holder), ("property", .string property)]
  | .currentUser => .tagged "currentUser" []
  | .currentTime => .tagged "currentTime" []

/-- The JSON form of the settings of a parameter. -/
def ValidationBlock.toJson (block : ValidationBlock) : Json :=
  .object <|
    [("renderHint", .string block.renderHint.name),
      ("visibility", .string block.visibility.name),
      ("allowedValues", block.allowedValues.toJson), ("required", block.requirement.toJson)] ++
    Json.optionalField "prefill" Prefill.toJson block.prefilled

/-- The JSON form of an effect. -/
def Effect.toJson : Effect → Json
  | .visibility shown => .tagged "visibility" [("visibility", .string shown.name)]
  | .requirement demanded => .tagged "required" [("required", demanded.toJson)]
  | .prefilled value => .tagged "prefill" [("prefill", value.toJson)]
  | .allowedValues admitted => .tagged "allowedValues" [("allowedValues", admitted.toJson)]

/-- The JSON form of conditional effects. -/
def ConditionalEffects.toJson (effects : ConditionalEffects) : Json :=
  .object
    [("condition", effects.condition.toJson),
      ("overrides", .array (effects.effects.map (·.toJson)))]

/-- The JSON form of all settings of a parameter. -/
def ParameterValidation.toJson (validation : ParameterValidation) : Json :=
  .object
    [("defaultValidation", validation.default.toJson),
      ("conditionalOverrides", .array (validation.overrides.map (·.toJson)))]

/-- The JSON form of a parameter. -/
def Parameter.toJson (parameter : Parameter) : Json :=
  .object <|
    [("id", .string parameter.id), ("displayName", .string parameter.displayName)] ++
    Json.optionalField "description" .string parameter.description ++
    [("type", parameter.type.toJson), ("validation", parameter.validation.toJson)]

/-! ### Rules -/

/-- The JSON form of a value source. -/
def ValueSource.toJson : ValueSource → Json
  | .parameter id => .tagged "parameterId" [("parameterId", .string id)]
  | .literal value => .tagged "staticValue" [("value", value.toJson)]
  | .currentUser => .tagged "currentUser" []
  | .currentTime => .tagged "currentTime" []
  | .objectProperty holder property =>
    .tagged "objectParameterPropertyValue"
      [("parameterId", .string holder), ("property", .string property)]

/-- The JSON form of a binding of an object property. -/
def ObjectBinding.toJson (binding : ObjectBinding) : Json :=
  .object [("property", .string binding.property), ("value", binding.value.toJson)]

/-- The JSON form of a binding of an interface property. -/
def InterfaceBinding.toJson (binding : InterfaceBinding) : Json :=
  .object [("sharedPropertyType", binding.property.toJson), ("value", binding.value.toJson)]

/-- The JSON form of a rule. -/
def Rule.toJson : Rule → Json
  | .addObject objectType values =>
    .tagged "addObject"
      [("objectType", objectType.toJson), ("propertyValues", .array (values.map (·.toJson)))]
  | .modifyObject target values =>
    .tagged "modifyObject"
      [("objectToModify", .string target), ("propertyValues", .array (values.map (·.toJson)))]
  | .deleteObject target => .tagged "deleteObject" [("objectToDelete", .string target)]
  | .addOrModifyObject target values =>
    .tagged "addOrModifyObject"
      [("objectToModify", .string target), ("propertyValues", .array (values.map (·.toJson)))]
  | .addInterface interfaceType objectType values =>
    .tagged "addInterface"
      [("interfaceType", interfaceType.toJson), ("objectTypeParameter", .string objectType),
        ("sharedPropertyValues", .array (values.map (·.toJson)))]
  | .modifyInterface interfaceType target objectType values =>
    .tagged "modifyInterface" <|
      [("interfaceType", interfaceType.toJson), ("interfaceObjectToModify", .string target)] ++
      Json.optionalField "objectTypeParameter" .string objectType ++
      [("sharedPropertyValues", .array (values.map (·.toJson)))]

/-! ### The form -/

/-- The name of a section visibility. -/
def SectionVisibility.name : SectionVisibility → String
  | .visible => "visible"
  | .hidden => "hidden"

/-- The JSON form of a section. -/
def FormSection.toJson (formSection : FormSection) : Json :=
  .object <|
    [("id", .string formSection.id), ("displayName", .string formSection.displayName)] ++
    Json.optionalField "description" .string formSection.description ++
    [("collapsedByDefault", .boolean formSection.collapsedByDefault),
      ("parameters", Json.strings formSection.parameters)]

/-- The JSON form of a conditional visibility. -/
def SectionOverride.toJson (override : SectionOverride) : Json :=
  .object
    [("condition", override.condition.toJson),
      ("visibility", .string override.visibility.name)]

/-- The JSON form of when a section shows. -/
def SectionValidation.toJson (validation : SectionValidation) : Json :=
  .object
    [("sectionId", .string validation.sectionId),
      ("defaultVisibility", .string validation.defaultVisibility.name),
      ("conditionalOverrides", .array (validation.overrides.map (·.toJson)))]

/-- The JSON form of an entry of the form. -/
def FormItem.toJson : FormItem → Json
  | .parameter id => .tagged "parameter" [("parameterId", .string id)]
  | .section id => .tagged "section" [("sectionId", .string id)]

/-! ### Action types -/

/-- The JSON form of a condition on the submission. -/
def SubmissionRule.toJson (rule : SubmissionRule) : Json :=
  .object
    [("condition", rule.condition.toJson), ("failureMessage", .string rule.failureMessage)]

/-- The JSON form of the conditions of an action. -/
def ActionValidation.toJson (validation : ActionValidation) : Json :=
  .object
    [("actionLevel", .array (validation.actionLevel.map (·.toJson))),
      ("sections", .array (validation.sections.map (·.toJson)))]

/-- The name of a status. -/
def ActionStatus.name : ActionStatus → String
  | .experimental => "experimental"
  | .active => "active"
  | .deprecated => "deprecated"

/-- The name of a layout. -/
def FormFormat.name : FormFormat → String
  | .form => "form"
  | .table => "table"

/-- The JSON form of an icon. -/
def Icon.toJson (icon : Icon) : Json :=
  .object [("locator", .string icon.locator), ("color", .string icon.color)]

/-- The JSON form of how an action is shown. -/
def ActionDisplay.toJson (display : ActionDisplay) : Json :=
  .object <|
    [("displayName", .string display.displayName)] ++
    Json.optionalField "description" .string display.description ++
    Json.optionalField "icon" Icon.toJson display.icon ++
    [("status", .string display.status.name),
      ("defaultFormat", .string display.defaultFormat.name),
      ("enableLayoutSwitch", .boolean display.enableLayoutSwitch)]

/-- The JSON form of the texts around submission. -/
def Submission.toJson (submission : Submission) : Json :=
  .object <|
    Json.optionalField "successMessage" .string submission.successMessage ++
    Json.optionalField "submitButtonText" .string submission.submitButtonText

/-- The JSON form of an action type. -/
def ActionType.toJson (action : ActionType) : Json :=
  .object
    [("id", action.id.toJson), ("display", action.display.toJson),
      ("logic", .array (action.logic.map (·.toJson))),
      ("parameters", .array (action.parameters.map (·.toJson))),
      ("parameterOrdering", Json.strings action.parameterOrdering),
      ("validation", action.validation.toJson),
      ("sections", .array (action.sections.map (·.toJson))),
      ("formContentOrdering", .array (action.formContent.map (·.toJson))),
      ("submission", action.submission.toJson)]

end Ontology
