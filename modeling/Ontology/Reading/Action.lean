import Ontology.Reading.Value
import Ontology.Emission.Action
import Ontology.Action.Draft
import Ontology.Action.Scope

/-!
Parts of actions from JSON: conditions, settings of parameters, rules, sections and metadata. What
has an emitted form is read in that form. Conditions have short forms of their own: `group` for
membership in a group, `parameterEquals` for equality with a literal, and `currentUser` for a
property of the current user.
-/

set_option autoImplicit false
set_option relaxedAutoImplicit false

namespace Ontology

/-- The parameters in scope, as pairs of an id and a type. -/
def Scope.ofJson? (json : Json) (name : String) : Option Scope :=
  (json.listAt name (Json.pair? Json.text? ParameterType.ofJson?)).map .mk

/-! ### Settings of parameters -/

/-- A visibility. -/
def Visibility.ofJson? : Json → Option Visibility :=
  Json.case? [.editable, .readOnly, .hidden] Visibility.name

/-- A form control. -/
def RenderHint.ofJson? : Json → Option RenderHint :=
  Json.case?
    [.dropdown, .radioButtons, .checkbox, .textInput, .textArea, .numericInput, .dateTimePicker,
      .filePicker, .mandatoryMarkingPicker, .mediaUploader, .geohashInput, .geoshapeInput,
      .userDropdown, .groupDropdown]
    RenderHint.name

/-- Allowed values. -/
def AllowedValues.ofJson? (json : Json) : Option AllowedValues := do
  match ← json.tag? with
  | "boolean" => return .boolean
  | "text" =>
    return .text (← json.optional "minLength" Json.length?)
      (← json.optional "maxLength" Json.length?)
  | "range" =>
    return .range (← json.optional "min" Literal.ofJson?) (← json.optional "max" Literal.ofJson?)
  | "datetime" =>
    return .datetime (← json.optional "min" Literal.ofJson?)
      (← json.optional "max" Literal.ofJson?)
  | "geohash" => return .geohash
  | "geoshape" => return .geoshape
  | "attachment" => return .attachment
  | "marking" => return .marking
  | "mediaReference" => return .mediaReference
  | "geotimeSeriesReference" => return .geotimeSeriesReference
  | "struct" => return .struct (← json.listAt "fields" Json.text?)
  | "objectQuery" => return .objectQuery (← json.required "objectType" Identifier.ofJson?)
  | "interfaceObjectQuery" =>
    return .interfaceObjectQuery (← json.required "interfaceType" Identifier.ofJson?)
  | "objectTypeReference" =>
    return .objectTypeReference (← json.listAt "interfaceTypes" Identifier.ofJson?)
  | "objectSet" => return .objectSet (← json.required "objectType" Identifier.ofJson?)
  | "user" => return .user
  | "group" => return .group
  | "oneOf" => return .oneOf (← json.listAt "values" Literal.ofJson?)
  | _ => none

/-- A requirement. -/
def Requirement.ofJson? (json : Json) : Option Requirement := do
  match ← json.tag? with
  | "required" => return .flag (← json.orElse "required" Json.truth? false)
  | "listLength" =>
    return .listLength (← json.optional "min" Json.length?) (← json.optional "max" Json.length?)
  | _ => none

/-- A prefill. -/
def Prefill.ofJson? (json : Json) : Option Prefill := do
  match ← json.tag? with
  | "staticValue" => return .literal (← json.required "value" Literal.ofJson?)
  | "objectParameterPropertyValue" =>
    return .objectProperty (← json.required "parameterId" Json.text?)
      (← json.required "property" Json.text?)
  | "currentUser" => return .currentUser
  | "currentTime" => return .currentTime
  | _ => none

/-- An effect. -/
def Effect.ofJson? (json : Json) : Option Effect := do
  match ← json.tag? with
  | "visibility" => return .visibility (← json.required "visibility" Visibility.ofJson?)
  | "required" => return .requirement (← json.required "required" Requirement.ofJson?)
  | "prefill" => return .prefilled (← json.required "prefill" Prefill.ofJson?)
  | "allowedValues" =>
    return .allowedValues (← json.required "allowedValues" AllowedValues.ofJson?)
  | _ => none

/-! ### Conditions -/

/-- An operator. -/
def Operator.ofJson? : Json → Option Operator :=
  Json.case?
    [.equals, .notEquals, .lessThan, .lessThanOrEquals, .greaterThan, .greaterThanOrEquals,
      .intersects, .includes, .isIncludedIn, .matchesPattern, .startsWith]
    Operator.name

/-- What a value is compared with. -/
def Comparand.ofJson? (json : Json) : Option Comparand := do
  match ← json.optional "parameter" Json.text? with
  | some id => return .parameter id
  | none => return .literal (← json.required "static" Literal.ofJson?)

/-- A user. -/
def UserReference.ofJson? (json : Json) : Option UserReference := do
  match ← json.tag? with
  | "currentUser" => return .currentUser
  | "parameter" => return .parameter (← json.required "parameterId" Json.text?)
  | _ => none

/-- A property of a user. -/
def UserProperty.ofJson? (json : Json) : Option UserProperty := do
  match ← json.tag? with
  | "userId" => return .userId
  | "username" => return .username
  | "email" => return .email
  | "organization" => return .organization
  | "groupIds" => return .groupIds
  | "attribute" => return .attribute (← json.required "name" Json.text?)
  | _ => none

/-- A side of a comparison. -/
def Operand.ofJson? (json : Json) : Option Operand := do
  match ← json.tag? with
  | "parameterId" => return .parameter (← json.required "parameterId" Json.text?)
  | "staticValue" => return .literal (← json.required "value" Literal.ofJson?)
  | "userProperty" =>
    return .userProperty (← json.required "user" UserReference.ofJson?)
      (← json.required "property" UserProperty.ofJson?)
  | _ => none

namespace ConditionDraft

/-- A condition without further conditions inside. -/
def leafOfJson? (tag : String) (json : Json) : Option ConditionDraft := do
  match tag with
  | "always" => return .always
  | "group" => return .memberOf (← json.required "group" Json.text?)
  | "parameterEquals" =>
    return .parameter (← json.required "parameterId" Json.text?) .equals
      (.literal (← json.required "value" Literal.ofJson?))
  | "parameter" =>
    return .parameter (← json.required "parameterId" Json.text?)
      (← json.required "operator" Operator.ofJson?) (← json.required "value" Comparand.ofJson?)
  | "currentUser" =>
    return .userProperty .currentUser (← json.required "property" UserProperty.ofJson?)
      (← json.required "operator" Operator.ofJson?) (← json.required "value" Comparand.ofJson?)
  | "userProperty" =>
    return .userProperty (← json.required "user" UserReference.ofJson?)
      (← json.required "property" UserProperty.ofJson?)
      (← json.required "operator" Operator.ofJson?) (← json.required "value" Comparand.ofJson?)
  | "comparison" =>
    return .comparison (← json.required "operator" Operator.ofJson?)
      (← json.required "left" Operand.ofJson?) (← json.required "right" Operand.ofJson?)
  | _ => none

/-- A condition. -/
def ofJson? (json : Json) : Option ConditionDraft :=
  match json.tag? with
  | none => none
  | some "and" =>
    match _h : json.itemsAt? "conditions" with
    | none => none
    | some items => (items.attach.mapM fun item ↦ ofJson? item.1).map .all
  | some "or" =>
    match _h : json.itemsAt? "conditions" with
    | none => none
    | some items => (items.attach.mapM fun item ↦ ofJson? item.1).map .any
  | some tag => leafOfJson? tag json
termination_by sizeOf json
decreasing_by all_goals exact Json.sizeOf_lt_of_itemsAt? _h item.2

end ConditionDraft

/-! ### Drafted parameters and sections -/

/-- Conditional effects. -/
def EffectsDraft.ofJson? (json : Json) : Option EffectsDraft :=
  return ⟨← json.required "condition" ConditionDraft.ofJson?,
    ← json.listAt "effects" Effect.ofJson?⟩

/-- What an author settles about a parameter. A `defaultValue` takes the place of a prefill. -/
def ParameterDraft.ofJson? (json : Json) : Option ParameterDraft := do
  let prefilled ← json.optional "prefill" Prefill.ofJson?
  let value ← json.optional "defaultValue" Literal.ofJson?
  return {
    displayName := ← json.optional "displayName" Json.text?
    description := ← json.optional "description" Json.text?
    type := ← json.optional "type" ParameterType.ofJson?
    required := ← json.optional "required" Json.truth?
    listMin := ← json.optional "listMin" Json.length?
    listMax := ← json.optional "listMax" Json.length?
    visibility := ← json.optional "visibility" Visibility.ofJson?
    renderHint := ← json.optional "renderHint" RenderHint.ofJson?
    allowedValues := ← json.optional "allowedValues" AllowedValues.ofJson?
    prefilled := (value.map .literal).or prefilled
    overrides := ← json.listAt "overrides" EffectsDraft.ofJson?
  }

/-- A section visibility. -/
def SectionVisibility.ofJson? : Json → Option SectionVisibility :=
  Json.case? [.visible, .hidden] SectionVisibility.name

/-- A section. -/
def SectionDraft.ofJson? (json : Json) : Option SectionDraft :=
  return {
    id := ← json.required "id" Json.text?
    parameters := ← json.listAt "parameters" Json.text?
    displayName := ← json.optional "displayName" Json.text?
    description := ← json.optional "description" Json.text?
    collapsedByDefault := ← json.orElse "collapsed" Json.truth? false
    defaultVisibility := if ← json.orElse "hidden" Json.truth? false then .hidden else .visible
    overrides :=
      ← json.listAt "visibilityWhen" (Json.pair? ConditionDraft.ofJson? SectionVisibility.ofJson?)
  }

/-! ### Metadata and frames -/

/-- An icon. -/
def Icon.ofJson? (json : Json) : Option Icon :=
  return ⟨← json.required "locator" Json.text?, ← json.required "color" Json.text?⟩

/-- A status. -/
def ActionStatus.ofJson? : Json → Option ActionStatus :=
  Json.case? [.experimental, .active, .deprecated] ActionStatus.name

/-- A layout. -/
def FormFormat.ofJson? : Json → Option FormFormat := Json.case? [.form, .table] FormFormat.name

/-- Display and submission texts. -/
def ActionMetadata.ofJson? (json : Json) : Option ActionMetadata :=
  return {
    displayName := ← json.optional "displayName" Json.text?
    description := ← json.optional "description" Json.text?
    icon := ← json.optional "icon" Icon.ofJson?
    status := ← json.orElse "status" ActionStatus.ofJson? .active
    defaultFormat := ← json.orElse "defaultFormat" FormFormat.ofJson? .form
    enableLayoutSwitch := ← json.orElse "enableLayoutSwitch" Json.truth? false
    submission :=
      ⟨← json.optional "successMessage" Json.text?, ← json.optional "submitButtonText" Json.text?⟩
  }

/-- A condition on the submission. -/
def SubmissionRuleDraft.ofJson? (json : Json) : Option SubmissionRuleDraft :=
  (Json.pair? ConditionDraft.ofJson? Json.text? json).map fun (condition, message) ↦
    ⟨condition, message⟩

/-- What all kinds of action say, under metadata that is given. -/
def ActionFrame.ofJson? (metadata : ActionMetadata) (json : Json) : Option ActionFrame :=
  return {
    metadata
    ordering := ← json.optional "ordering" (Json.list? Json.text?)
    sections := ← json.listAt "sections" SectionDraft.ofJson?
    validation := ← json.listAt "validation" SubmissionRuleDraft.ofJson?
    submitterGroups := ← json.listAt "submitterGroups" Json.text?
  }

/-! ### Rules -/

/-- A value source. -/
def ValueSource.ofJson? (json : Json) : Option ValueSource := do
  match ← json.tag? with
  | "parameterId" => return .parameter (← json.required "parameterId" Json.text?)
  | "staticValue" => return .literal (← json.required "value" Literal.ofJson?)
  | "currentUser" => return .currentUser
  | "currentTime" => return .currentTime
  | "objectParameterPropertyValue" =>
    return .objectProperty (← json.required "parameterId" Json.text?)
      (← json.required "property" Json.text?)
  | _ => none

/-- A binding of an object property. -/
def ObjectBinding.ofJson? (json : Json) : Option ObjectBinding :=
  return ⟨← json.required "property" Json.text?, ← json.required "value" ValueSource.ofJson?⟩

/-- A binding of an interface property. -/
def InterfaceBinding.ofJson? (json : Json) : Option InterfaceBinding :=
  return ⟨← json.required "sharedPropertyType" Identifier.ofJson?,
    ← json.required "value" ValueSource.ofJson?⟩

/-- A rule. -/
def Rule.ofJson? (json : Json) : Option Rule := do
  match ← json.tag? with
  | "addObject" =>
    return .addObject (← json.required "objectType" Identifier.ofJson?)
      (← json.listAt "propertyValues" ObjectBinding.ofJson?)
  | "modifyObject" =>
    return .modifyObject (← json.required "objectToModify" Json.text?)
      (← json.listAt "propertyValues" ObjectBinding.ofJson?)
  | "deleteObject" => return .deleteObject (← json.required "objectToDelete" Json.text?)
  | "addOrModifyObject" =>
    return .addOrModifyObject (← json.required "objectToModify" Json.text?)
      (← json.listAt "propertyValues" ObjectBinding.ofJson?)
  | "addInterface" =>
    return .addInterface (← json.required "interfaceType" Identifier.ofJson?)
      (← json.required "objectTypeParameter" Json.text?)
      (← json.listAt "sharedPropertyValues" InterfaceBinding.ofJson?)
  | "modifyInterface" =>
    return .modifyInterface (← json.required "interfaceType" Identifier.ofJson?)
      (← json.required "interfaceObjectToModify" Json.text?)
      (← json.optional "objectTypeParameter" Json.text?)
      (← json.listAt "sharedPropertyValues" InterfaceBinding.ofJson?)
  | _ => none

end Ontology
