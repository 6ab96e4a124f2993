import Ontology.ActionType

/-!
Actions as their authors describe them. A `CrudDefinition` names a target and is expanded into
parameters and a rule; a `ManualDefinition` spells both out. Entities are named by identifier.
Properties are named by a key: the api name for objects, the identifier's text for interfaces.
Parameters go by ids that are local to the action.
-/

set_option autoImplicit false
set_option relaxedAutoImplicit false

namespace Ontology

/-! ### Conditions -/

/-- What a parameter or a user property is compared with. -/
inductive Comparand where
  | parameter (id : String)
  | literal (value : Literal)

/-- A condition before it is checked and brought into canonical form. -/
inductive ConditionDraft where
  | always
  /-- The current user belongs to a group. -/
  | memberOf (group : String)
  | parameter (id : String) (operator : Operator) (value : Comparand)
  | userProperty (user : UserReference) (property : UserProperty) (operator : Operator)
      (value : Comparand)
  | all (conditions : List ConditionDraft)
  | any (conditions : List ConditionDraft)
  /-- A comparison that is in canonical form already. -/
  | comparison (operator : Operator) (left right : Operand)

instance : Inhabited ConditionDraft := ⟨.always⟩

/-! ### Parameters -/

/-- Effects that apply while a condition holds. -/
structure EffectsDraft where
  condition : ConditionDraft
  effects : List Effect

/-- What an author settles about a parameter. -/
structure ParameterDraft where
  displayName : Option String := none
  description : Option String := none
  /-- The type of the parameter; it must be given where no property determines it. -/
  type : Option ParameterType := none
  required : Option Bool := none
  listMin : Option Nat := none
  listMax : Option Nat := none
  visibility : Option Visibility := none
  renderHint : Option RenderHint := none
  allowedValues : Option AllowedValues := none
  prefilled : Option Prefill := none
  overrides : List EffectsDraft := []

/-! ### Sections and submission -/

/-- A section of the form and when it shows. -/
structure SectionDraft where
  id : String
  parameters : List String
  displayName : Option String := none
  description : Option String := none
  collapsedByDefault : Bool := false
  defaultVisibility : SectionVisibility := .visible
  overrides : List (ConditionDraft × SectionVisibility) := []

/-- A condition on the submission and what is said when it fails. -/
structure SubmissionRuleDraft where
  condition : ConditionDraft
  failureMessage : String

/-- Display and submission texts. -/
structure ActionMetadata where
  displayName : Option String := none
  description : Option String := none
  icon : Option Icon := none
  status : ActionStatus := .active
  defaultFormat : FormFormat := .form
  enableLayoutSwitch : Bool := false
  submission : Submission := ⟨none, none⟩

/-- What both kinds of definition say beside their parameters and rules. -/
structure ActionFrame where
  metadata : ActionMetadata := {}
  /-- The order of the parameters, where it is not that of their declaration. -/
  ordering : Option (List String) := none
  sections : List SectionDraft := []
  validation : List SubmissionRuleDraft := []
  /-- The groups that may submit the action; without any, everyone may. -/
  submitterGroups : List String := []

/-! ### Generated actions -/

/-- The kinds of generated action. -/
inductive CrudKind where
  | create
  | modify
  | delete
  | createOrModify
deriving DecidableEq

namespace CrudKind

/-- The words that open a default api name. -/
def apiWords : CrudKind → String
  | .create => "create"
  | .modify => "modify"
  | .delete => "delete"
  | .createOrModify => "create-or-modify"

/-- The words that open a default display name. -/
def displayWords : CrudKind → String
  | .create => "Create"
  | .modify => "Modify"
  | .delete => "Delete"
  | .createOrModify => "Create or modify"

/-- The display name of an action that has none of its own. -/
def defaultDisplayName (kind : CrudKind) (target : String) : String :=
  kind.displayWords ++ " " ++ target

end CrudKind

/-- The entity that a generated action works on. -/
inductive CrudTarget where
  | object (id : Identifier)
  | interface (id : Identifier)
deriving DecidableEq

namespace CrudTarget

/-- The identifier of the target. -/
def id : CrudTarget → Identifier
  | .object id => id
  | .interface id => id

/-- Whether the target is an interface. -/
def isInterface : CrudTarget → Bool
  | .object _ => false
  | .interface _ => true

/-- The words for the kind of target in a default api name. -/
def apiWords : CrudTarget → String
  | .object _ => "object"
  | .interface _ => "interface-object"

/-- The api name of an action that has none of its own, before qualification. -/
def defaultApiName (target : CrudTarget) (kind : CrudKind) : String :=
  kind.apiWords ++ "-" ++ target.apiWords ++ "-" ++ kebabCase target.id.localName

end CrudTarget

/-- An action that creates, modifies or deletes objects of its target. -/
structure CrudDefinition extends ActionFrame where
  id : Identifier
  kind : CrudKind
  target : CrudTarget
  /-- The keys of properties that get no parameter. -/
  excluded : List String := []
  /-- What is settled about parameters, by id. -/
  configuration : List (String × ParameterDraft) := []
  /-- Values for properties, by key, in place of parameters. -/
  fixedValues : List (String × ValueSource) := []

namespace CrudDefinition

/-- What is settled about a parameter. -/
def configuration? (definition : CrudDefinition) (id : String) : Option ParameterDraft :=
  (definition.configuration.find? (·.1 = id)).map (·.2)

/-- The value that a property is fixed to. -/
def fixedValue? (definition : CrudDefinition) (key : String) : Option ValueSource :=
  (definition.fixedValues.find? (·.1 = key)).map (·.2)

end CrudDefinition

/-! ### Actions spelled out -/

/-- A parameter that is declared by hand. -/
structure ManualParameter where
  id : String
  type : ParameterType
  draft : ParameterDraft := {}

/-- An action with parameters and rules of its own. -/
structure ManualDefinition extends ActionFrame where
  id : Identifier
  parameters : List ManualParameter := []
  rules : List Rule := []

end Ontology
