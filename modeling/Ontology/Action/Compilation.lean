import Ontology.Action.Binding
import Ontology.Action.Configuration
import Ontology.Action.Layout

/-!
From definitions to action types. `CrudDefinition.compile` expands a generated action,
`ManualDefinition.compile` checks one that is spelled out, and both end in `ActionFrame.assemble`,
which adds sections and conditions on the submission. Compilation reads the registry and leaves it
alone.
-/

set_option autoImplicit false
set_option relaxedAutoImplicit false

namespace Ontology

/-- An action type with the restriction on its submission. -/
structure CompiledAction where
  actionType : ActionType
  permission : Option ActionPermission
deriving BEq

/-! ### Parameters -/

namespace ParameterSketch

/-- The parameters of an action as a scope. -/
def scope (parameters : List ParameterSketch) : Scope :=
  ⟨parameters.map fun parameter ↦ (parameter.id, parameter.type)⟩

/-- The settings of a parameter before those of its author. -/
def base (parameter : ParameterSketch) : ValidationBlock :=
  parameter.type.defaultBlock parameter.required

/-- A parameter with all its settings. -/
def build (scope : Scope) (draft : Option ParameterDraft) (parameter : ParameterSketch) :
    Except ActionError Parameter :=
  return {
    id := parameter.id
    displayName := parameter.displayName
    description := parameter.description
    type := parameter.type
    validation := ← match draft with
      | none => .ok ⟨parameter.base, []⟩
      | some draft => draft.configure scope parameter.id parameter.type parameter.base
  }

end ParameterSketch

/-- A parameter that is declared by hand as a sketch; it is shown by its id unless told
otherwise. -/
def ManualParameter.sketch (parameter : ManualParameter) : ParameterSketch where
  id := parameter.id
  displayName := parameter.draft.displayName.getD parameter.id
  description := parameter.draft.description
  type := parameter.type
  required := parameter.draft.required.getD false

/-! ### Assembly -/

/-- What is said to a user outside the submitter groups. -/
def notSubmitterMessage : String := "You do not have permission to submit this action"

namespace ActionFrame

/-- The rule that lets only the submitter groups submit. -/
def submitterRules (frame : ActionFrame) : List SubmissionRule :=
  match frame.submitterGroups with
  | [] => []
  | groups@(_ :: _) => [⟨.any (groups.map .memberOf), notSubmitterMessage⟩]

/-- The restriction on submission, if there is one. -/
def permission (frame : ActionFrame) (id : Identifier) : Option ActionPermission :=
  match frame.submitterGroups with
  | [] => none
  | groups@(_ :: _) => some ⟨id, groups⟩

/-- The conditions on the submission: those of the author, then the one on groups. Without any
there is one that always passes. -/
def submissionRules (frame : ActionFrame) (scope : Scope) :
    Except ActionError (List SubmissionRule) := do
  let declared ← frame.validation.mapM fun rule ↦
    return ⟨← rule.condition.compile scope, rule.failureMessage⟩
  match declared ++ frame.submitterRules with
  | [] => return [.always]
  | rules@(_ :: _) => return rules

/-- How the action is shown. -/
def display (frame : ActionFrame) (defaultName : String) : ActionDisplay where
  displayName := frame.metadata.displayName.getD defaultName
  description := frame.metadata.description
  icon := frame.metadata.icon
  status := frame.metadata.status
  defaultFormat := frame.metadata.defaultFormat
  enableLayoutSwitch := frame.metadata.enableLayoutSwitch

/-- The action type with its form and its conditions. -/
def assemble (frame : ActionFrame) (id : Identifier) (scope : Scope) (defaultName : String)
    (logic : List Rule) (parameters : List Parameter) (ordering : List String) :
    Except ActionError CompiledAction := do
  let layout ← SectionLayout.ofDrafts scope ordering frame.sections
  let rules ← frame.submissionRules scope
  let actionType : ActionType :=
    { id
      display := frame.display defaultName
      logic
      parameters
      parameterOrdering := ordering
      validation := ⟨rules, layout.validations⟩
      sections := layout.sections
      formContent := formContent layout.sections ordering
      submission := frame.metadata.submission }
  return ⟨actionType, frame.permission id⟩

end ActionFrame

/-! ### Compilation -/

/-- Compiles a generated action. -/
def CrudDefinition.compile (registry : Registry) (definition : CrudDefinition) :
    Except ActionError CompiledAction := do
  let target ← ActionTarget.resolve registry definition.target
  let sketches ← definition.synthesize target
  let ordering ← resolveOrdering definition.id (sketches.map (·.id)) definition.ordering
  let scope := ParameterSketch.scope sketches
  let parameters ← sketches.mapM fun sketch ↦
    sketch.build scope (definition.configuration? sketch.id)
  let rule ← definition.rule registry scope target
  definition.assemble definition.id scope (definition.kind.defaultDisplayName target.displayName)
    [rule] parameters ordering

/-- Compiles an action that is spelled out. -/
def ManualDefinition.compile (registry : Registry) (definition : ManualDefinition) :
    Except ActionError CompiledAction := do
  let ids := definition.parameters.map (·.id)
  checkDistinct [] ids
  let ordering ← resolveOrdering definition.id ids definition.ordering
  let scope := ParameterSketch.scope (definition.parameters.map (·.sketch))
  definition.rules.forM (·.check registry scope)
  let parameters ← definition.parameters.mapM fun parameter ↦
    parameter.sketch.build scope (some parameter.draft)
  definition.assemble definition.id scope definition.id.localName definition.rules parameters
    ordering

end Ontology
