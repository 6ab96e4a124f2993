import Ontology.Parameter
import Ontology.Rule
import Ontology.Form

/-!
Compiled action types: display, rules, parameters with their validation, and the form, all spelled
out.
-/

set_option autoImplicit false
set_option relaxedAutoImplicit false

namespace Ontology

/-- A condition on the whole submission and what is said when it fails. -/
structure SubmissionRule where
  condition : Condition
  failureMessage : String
deriving BEq

/-- The rule that always passes. -/
def SubmissionRule.always : SubmissionRule := ⟨.always, ""⟩

/-- The conditions on a submission and on the sections of its form. -/
structure ActionValidation where
  actionLevel : List SubmissionRule
  sections : List SectionValidation
deriving BEq

/-- The place of an action in its life. -/
inductive ActionStatus where
  | experimental
  | active
  | deprecated
deriving DecidableEq

/-- The layout that the form opens with. -/
inductive FormFormat where
  | form
  | table
deriving DecidableEq

/-- The icon of an action. -/
structure Icon where
  locator : String
  color : String
deriving DecidableEq

/-- How an action is shown. -/
structure ActionDisplay where
  displayName : String
  description : Option String
  icon : Option Icon
  status : ActionStatus
  defaultFormat : FormFormat
  enableLayoutSwitch : Bool
deriving DecidableEq

/-- The texts around submission. -/
structure Submission where
  successMessage : Option String
  submitButtonText : Option String
deriving DecidableEq

/-- A compiled action. -/
structure ActionType where
  id : Identifier
  display : ActionDisplay
  logic : List Rule
  parameters : List Parameter
  parameterOrdering : List String
  validation : ActionValidation
  sections : List FormSection
  formContent : List FormItem
  submission : Submission
deriving BEq

namespace ActionType

/-- The parameter of an id. -/
def parameter? (action : ActionType) (id : String) : Option Parameter :=
  action.parameters.find? (·.id = id)

/-- The section of an id. -/
def section? (action : ActionType) (id : String) : Option FormSection :=
  action.sections.find? (·.id = id)

end ActionType

end Ontology
