import Ontology.Action.ConditionTyping

/-!
The sections of an action's form. A layout is accepted when its sections name declared parameters
only, have distinct ids, and share no parameter, and when all visibility conditions compile.
-/

set_option autoImplicit false
set_option relaxedAutoImplicit false

namespace Ontology

/-- The sections of a form and when they show. -/
structure SectionLayout where
  sections : List FormSection
  validations : List SectionValidation
deriving BEq

namespace SectionDraft

/-- The section that a draft describes; it is shown by its id unless told otherwise. -/
def build (draft : SectionDraft) : FormSection where
  id := draft.id
  displayName := draft.displayName.getD draft.id
  description := draft.description
  collapsedByDefault := draft.collapsedByDefault
  parameters := draft.parameters

/-- When a section shows, over the parameters in scope. -/
def compileValidation (scope : Scope) (draft : SectionDraft) :
    Except ActionError SectionValidation :=
  return {
    sectionId := draft.id
    defaultVisibility := draft.defaultVisibility
    overrides := ← draft.overrides.mapM fun (condition, visibility) ↦
      return ⟨← condition.compile scope, visibility⟩
  }

/-- Where parameters stand once a section's parameters have been placed in it. A parameter that
stands somewhere already is an error. -/
def place (id : String) (placed : List (String × String)) :
    List String → Except ActionError (List (String × String))
  | [] => .ok placed
  | parameter :: rest =>
    match placed.find? (·.1 = parameter) with
    | some (_, first) => .error (.parameterInMultipleSections parameter first id)
    | none => place id ((parameter, id) :: placed) rest

/-- When sections show, given the ids of the sections before them and where those have placed
parameters. The faults of a section are reported before those of the next. -/
def compileAll (scope : Scope) (earlier : List String) (placed : List (String × String)) :
    List SectionDraft → Except ActionError (List SectionValidation)
  | [] => .ok []
  | draft :: rest => do
    if draft.id ∈ earlier then throw (.duplicateSection draft.id)
    let placed ← place draft.id placed draft.parameters
    let validation ← draft.compileValidation scope
    return validation :: (← compileAll scope (draft.id :: earlier) placed rest)

end SectionDraft

/-- The layout of a form with the given parameters. -/
def SectionLayout.ofDrafts (scope : Scope) (parameterIds : List String)
    (drafts : List SectionDraft) : Except ActionError SectionLayout := do
  checkDeclared (· ∈ parameterIds) (drafts.flatMap (·.parameters))
  return {
    sections := drafts.map (·.build)
    validations := ← SectionDraft.compileAll scope [] [] drafts
  }

end Ontology
