import Ontology.Reading.Action
import Ontology.Session

/-!
Definitions from JSON. `Definition.ofJson?` reads what a session can be asked to define, where
entities go by names. `EntitySource.ofJson?` reads entities by identifier as a registry takes them;
an action among them is a definition that is still to be compiled.
-/

set_option autoImplicit false
set_option relaxedAutoImplicit false

namespace Ontology

/-! ### Kinds and targets -/

/-- A kind of generated action. -/
def CrudKind.ofJson? (json : Json) : Option CrudKind := do
  match ← json.text? with
  | "create" => return .create
  | "modify" => return .modify
  | "delete" => return .delete
  | "createOrModify" => return .createOrModify
  | _ => none

/-- The target of a generated action. -/
def CrudTarget.ofJson? (json : Json) : Option CrudTarget := do
  match ← json.optional "object" Identifier.ofJson? with
  | some id => return .object id
  | none => return .interface (← json.required "interface" Identifier.ofJson?)

/-- The target of a generated action by name. -/
def NamedTarget.ofJson? (json : Json) : Option NamedTarget := do
  match ← json.optional "object" Name.ofJson? with
  | some name => return .object name
  | none => return .interface (← json.required "interface" Name.ofJson?)

/-- A kind of entity. -/
def EntityKind.ofJson? (json : Json) : Option EntityKind := do
  match ← json.text? with
  | "sharedPropertyType" => return .sharedPropertyType
  | "interfaceType" => return .interfaceType
  | "objectType" => return .objectType
  | "actionType" => return .actionType
  | "valueType" => return .valueType
  | _ => none

/-! ### Actions by identifier -/

/-- What is settled about parameters, by id. -/
def ParameterDraft.configurationOfJson? (json : Json) : Option (List (String × ParameterDraft)) :=
  json.listAt "parameters" (Json.pair? Json.text? ParameterDraft.ofJson?)

/-- A generated action. -/
def CrudDefinition.ofJson? (json : Json) : Option CrudDefinition := do
  let frame ← ActionFrame.ofJson? (← ActionMetadata.ofJson? json) json
  return {
    toActionFrame := frame
    id := ← json.required "id" Identifier.ofJson?
    kind := ← json.required "kind" CrudKind.ofJson?
    target := ← json.required "target" CrudTarget.ofJson?
    excluded := ← json.listAt "exclude" Json.text?
    configuration := ← ParameterDraft.configurationOfJson? json
    fixedValues := ← json.listAt "fixedValues" (Json.pair? Json.text? ValueSource.ofJson?)
  }

/-- A parameter that is declared by hand. -/
def ManualParameter.ofJson? (json : Json) : Option ManualParameter :=
  return ⟨← json.required "id" Json.text?, ← json.required "type" ParameterType.ofJson?,
    ← json.orElse "config" ParameterDraft.ofJson? {}⟩

/-- An action that is spelled out. -/
def ManualDefinition.ofJson? (json : Json) : Option ManualDefinition := do
  let frame ← ActionFrame.ofJson? (← ActionMetadata.ofJson? json) json
  return {
    toActionFrame := frame
    id := ← json.required "id" Identifier.ofJson?
    parameters := ← json.listAt "parameters" ManualParameter.ofJson?
    rules := ← json.listAt "rules" Rule.ofJson?
  }

/-! ### Entities by identifier -/

/-- A property of an interface; it is required unless told otherwise. -/
def InterfaceProperty.ofJson? (json : Json) : Option InterfaceProperty := do
  let required ← json.orElse "required" Json.truth? true
  match ← json.optional "shared" Identifier.ofJson? with
  | some id => return .shared id required
  | none =>
    let id ← json.required "inline" Identifier.ofJson?
    return .inline id (← json.required "type" PropertyType.ofJson?)
      (← json.orElse "displayName" Json.text? id.text) required

/-- A property of an object. -/
def ObjectProperty.ofJson? (json : Json) : Option ObjectProperty := do
  let apiName ← json.required "apiName" Json.text?
  return {
    apiName
    type := ← json.required "type" PropertyType.ofJson?
    displayName := ← json.orElse "displayName" Json.text? apiName
    description := ← json.optional "description" Json.text?
    sharedPropertyType := ← json.optional "sharedPropertyType" Identifier.ofJson?
  }

/-- An implementation of an interface. -/
def Implementation.ofJson? (json : Json) : Option Implementation := do
  let mappings ← json.listAt "mappings" (Json.pair? Identifier.ofJson? Json.text?)
  return ⟨← json.required "interface" Identifier.ofJson?,
    mappings.map fun (interfaceProperty, objectProperty) ↦ ⟨interfaceProperty, objectProperty⟩⟩

/-- A shared property type. -/
def SharedPropertyType.ofJson? (json : Json) : Option SharedPropertyType := do
  let id ← json.required "id" Identifier.ofJson?
  return {
    id
    type := ← json.required "type" PropertyType.ofJson?
    displayName := ← json.orElse "displayName" Json.text? id.localName
    description := ← json.optional "description" Json.text?
    valueType := ← json.optional "valueType" Identifier.ofJson?
  }

/-- An interface type. -/
def InterfaceType.ofJson? (json : Json) : Option InterfaceType := do
  let id ← json.required "id" Identifier.ofJson?
  return {
    id
    displayName := ← json.orElse "displayName" Json.text? id.localName
    description := ← json.optional "description" Json.text?
    parents := ← json.listAt "extends" Identifier.ofJson?
    properties := ← json.listAt "properties" InterfaceProperty.ofJson?
  }

/-- An object type. -/
def ObjectType.ofJson? (json : Json) : Option ObjectType := do
  let id ← json.required "id" Identifier.ofJson?
  let primaryKey ← json.required "primaryKey" Json.text?
  return {
    id
    displayName := ← json.orElse "displayName" Json.text? id.text
    pluralDisplayName := ← json.orElse "pluralDisplayName" Json.text? id.text
    description := ← json.optional "description" Json.text?
    primaryKey
    titleProperty := ← json.orElse "titleProperty" Json.text? primaryKey
    properties := ← json.listAt "properties" ObjectProperty.ofJson?
    implements := ← json.listAt "implements" Implementation.ofJson?
  }

/-- A value type. -/
def ValueType.ofJson? (json : Json) : Option ValueType := do
  let id ← json.required "id" Identifier.ofJson?
  return {
    id
    version := ← json.required "version" Json.text?
    baseType := ← json.required "baseType" PropertyType.ofJson?
    displayName := ← json.orElse "displayName" Json.text? id.localName
    description := ← json.optional "description" Json.text?
  }

/-- An entity, or the definition of an action that is to be one. -/
inductive EntitySource where
  | entity (held : Entity)
  | generated (definition : CrudDefinition)
  | manual (definition : ManualDefinition)

namespace EntitySource

/-- An entity by its `kind`; an action is read from its `crud` or `manual` field. -/
def ofJson? (json : Json) : Option EntitySource := do
  match ← json.required "kind" EntityKind.ofJson? with
  | .sharedPropertyType =>
    return .entity (.sharedPropertyType (← SharedPropertyType.ofJson? json))
  | .interfaceType => return .entity (.interfaceType (← InterfaceType.ofJson? json))
  | .objectType => return .entity (.objectType (← ObjectType.ofJson? json))
  | .valueType => return .entity (.valueType (← ValueType.ofJson? json))
  | .actionType =>
    match ← json.optional "crud" CrudDefinition.ofJson? with
    | some definition => return .generated definition
    | none => return .manual (← json.required "manual" ManualDefinition.ofJson?)

/-- The entity, where an action is compiled against a registry. -/
def resolve (registry : Registry) : EntitySource → Except ActionError Entity
  | .entity held => .ok held
  | .generated definition => return .actionType (← definition.compile registry).actionType
  | .manual definition => return .actionType (← definition.compile registry).actionType

end EntitySource

/-! ### Definitions by name -/

/-- A property of an interface by name. -/
def InterfacePropertyDraft.ofJson? (json : Json) : Option InterfacePropertyDraft := do
  if let some name ← json.optional "shared" Name.ofJson? then return .shared name true
  if let some name ← json.optional "optional" Name.ofJson? then return .shared name false
  let type ← json.required "type" PropertyType.ofJson?
  if let some name ← json.optional "define" Name.ofJson? then return .defined name type
  return .inline (← json.required "inline" Name.ofJson?) type

/-- A property of an object by name. -/
def ObjectPropertyDraft.ofJson? (json : Json) : Option ObjectPropertyDraft := do
  match ← json.optional "shared" Name.ofJson? with
  | some name => return .shared (← json.required "apiName" Json.text?) name
  | none => return .declared (← ObjectProperty.ofJson? json)

/-- An implementation of an interface by name. -/
def ImplementationDraft.ofJson? (json : Json) : Option ImplementationDraft :=
  return ⟨← json.required "interface" Name.ofJson?,
    ← json.listAt "mappings" (Json.pair? Name.ofJson? Json.text?)⟩

/-- A shared property type by name. -/
def SharedPropertyDraft.ofJson? (json : Json) : Option SharedPropertyDraft :=
  return {
    name := ← json.required "name" Name.ofJson?
    type := ← json.required "type" PropertyType.ofJson?
    displayName := ← json.optional "displayName" Json.text?
    description := ← json.optional "description" Json.text?
    valueType := ← json.optional "valueType" Name.ofJson?
  }

/-- A value type by name. -/
def ValueTypeDraft.ofJson? (json : Json) : Option ValueTypeDraft :=
  return {
    name := ← json.required "name" Name.ofJson?
    version := ← json.required "version" Json.text?
    baseType := ← json.required "baseType" PropertyType.ofJson?
    displayName := ← json.optional "displayName" Json.text?
    description := ← json.optional "description" Json.text?
  }

/-- An interface type by name. -/
def InterfaceDraft.ofJson? (json : Json) : Option InterfaceDraft :=
  return {
    name := ← json.required "name" Name.ofJson?
    displayName := ← json.optional "displayName" Json.text?
    description := ← json.optional "description" Json.text?
    parents := ← json.listAt "extends" Name.ofJson?
    properties := ← json.listAt "properties" InterfacePropertyDraft.ofJson?
  }

/-- An object type by name. -/
def ObjectDraft.ofJson? (json : Json) : Option ObjectDraft :=
  return {
    name := ← json.required "name" Name.ofJson?
    displayName := ← json.optional "displayName" Json.text?
    pluralDisplayName := ← json.optional "pluralDisplayName" Json.text?
    description := ← json.optional "description" Json.text?
    primaryKey := ← json.optional "primaryKey" Json.text?
    titleProperty := ← json.optional "titleProperty" Json.text?
    properties := ← json.listAt "properties" ObjectPropertyDraft.ofJson?
    implements := ← json.listAt "implements" ImplementationDraft.ofJson?
  }

/-- A generated action by name. -/
def CrudDraft.ofJson? (json : Json) : Option CrudDraft := do
  let frame ← ActionFrame.ofJson? (← ActionMetadata.ofJson? json) json
  return {
    toActionFrame := frame
    kind := ← json.required "kind" CrudKind.ofJson?
    target := ← json.required "target" NamedTarget.ofJson?
    apiName := ← json.optional "apiName" Name.ofJson?
    excluded := ← json.listAt "exclude" Name.ofJson?
    configuration := ← ParameterDraft.configurationOfJson? json
    fixedValues := ← json.listAt "fixedValues" (Json.pair? Name.ofJson? ValueSource.ofJson?)
  }

/-- The metadata of an action that is spelled out: those in its `metadata` field, with four of them
overridden by fields of their own. -/
def ManualDraft.metadataOfJson? (json : Json) : Option ActionMetadata := do
  let base ← json.orElse "metadata" ActionMetadata.ofJson? {}
  return { base with
    displayName := (← json.optional "displayName" Json.text?).or base.displayName
    description := (← json.optional "description" Json.text?).or base.description
    icon := (← json.optional "icon" Icon.ofJson?).or base.icon
    status := ← json.orElse "status" ActionStatus.ofJson? base.status }

/-- An action that is spelled out, by name. -/
def ManualDraft.ofJson? (json : Json) : Option ManualDraft := do
  let frame ← ActionFrame.ofJson? (← ManualDraft.metadataOfJson? json) json
  return {
    toActionFrame := frame
    name := ← json.required "name" Name.ofJson?
    parameters := ← json.listAt "parameters" ManualParameter.ofJson?
    rules := ← json.listAt "rules" Rule.ofJson?
  }

/-- A definition of the kind that its tag names. -/
def Definition.ofJson? (tag : String) (json : Json) : Option Definition :=
  match tag with
  | "sharedPropertyType" => (SharedPropertyDraft.ofJson? json).map .sharedProperty
  | "valueType" => (ValueTypeDraft.ofJson? json).map .valueType
  | "interfaceType" => (InterfaceDraft.ofJson? json).map .interfaceType
  | "objectType" => (ObjectDraft.ofJson? json).map .objectType
  | "crudAction" => (CrudDraft.ofJson? json).map .generatedAction
  | "manualAction" => (ManualDraft.ofJson? json).map .manualAction
  | _ => none

/-- What a session is started with. -/
def SessionOptions.ofJson? (json : Json) : Option SessionOptions :=
  return ⟨← json.orElse "namespace" Json.text? "", ← json.optional "randomnessKey" Json.text?,
    ← json.orElse "strict" Json.truth? true⟩

end Ontology
