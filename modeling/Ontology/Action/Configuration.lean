import Ontology.Action.ConditionTyping

/-!
The settings of a parameter, from its type, its requiredness and what the author settles about it.
`ParameterDraft.configure` puts the author's settings over a base block, checks every static value
against the type, and compiles the conditional effects.
-/

set_option autoImplicit false
set_option relaxedAutoImplicit false

namespace Ontology

/-! ### Checks -/

/-- Accepts a static value of the parameter's type. -/
def checkStaticValue (id : String) (type : ParameterType) (value : Literal) :
    Except ActionError Unit :=
  if type.admits value then .ok () else .error (.defaultValueMismatch id type value)

/-- Accepts a prefill whose static value, if it is one, has the parameter's type. -/
def Prefill.check (id : String) (type : ParameterType) : Prefill → Except ActionError Unit
  | .literal value => checkStaticValue id type value
  | .objectProperty .. | .currentUser | .currentTime => .ok ()

/-- Accepts allowed values whose enumerated values, if there are any, have the type of an item. -/
def AllowedValues.check (id : String) (type : ParameterType) (allowed : AllowedValues) :
    Except ActionError Unit :=
  match allowed with
  | .oneOf values => values.forM (checkStaticValue id type.itemType)
  | _ => .ok ()

/-- Accepts length bounds that some length satisfies. -/
def Requirement.check (id : String) : Requirement → Except ActionError Unit
  | .listLength (some min) (some max) =>
    if max < min then .error (.invalidListLength id min max) else .ok ()
  | _ => .ok ()

/-! ### Effects -/

/-- An effect with its values checked. A list gets bounds on its length in place of a flag. -/
def Effect.normalize (id : String) (type : ParameterType) (effect : Effect) :
    Except ActionError Effect :=
  match effect with
  | .visibility _ => .ok effect
  | .prefilled value => do
    value.check id type
    return effect
  | .allowedValues admitted => do
    admitted.check id type
    return effect
  | .requirement demanded =>
    match demanded, type.isList with
    | .flag required, true => .ok (.requirement (type.requirement required none none))
    | _, _ => do
      demanded.check id
      return effect

/-- Conditional effects over the parameters in scope. -/
def EffectsDraft.compile (scope : Scope) (id : String) (type : ParameterType)
    (draft : EffectsDraft) : Except ActionError ConditionalEffects := do
  let condition ← draft.condition.compile scope
  return ⟨condition, ← draft.effects.mapM (Effect.normalize id type)⟩

/-! ### Parameters -/

namespace ParameterDraft

/-- The allowed values that the author gives, or those of the base. -/
def configuredValues (draft : ParameterDraft) (id : String) (type : ParameterType)
    (base : AllowedValues) : Except ActionError AllowedValues :=
  match draft.allowedValues with
  | none => .ok base
  | some allowed => do
    allowed.check id type
    return allowed

/-- The requirement that the author gives, or that of the base. Bounds alone leave it as required
as it was. -/
def configuredRequirement (draft : ParameterDraft) (id : String) (type : ParameterType)
    (base : Requirement) : Except ActionError Requirement :=
  match draft.required, draft.listMin, draft.listMax with
  | none, none, none => .ok base
  | required, min, max => do
    let requirement := type.requirement (required.getD base.isRequired) min max
    requirement.check id
    return requirement

/-- The prefill that the author gives, or that of the base. -/
def configuredPrefill (draft : ParameterDraft) (id : String) (type : ParameterType)
    (base : Option Prefill) : Except ActionError (Option Prefill) :=
  match draft.prefilled with
  | none => .ok base
  | some prefilled => do
    prefilled.check id type
    return some prefilled

/-- The default settings, with the author's over those of the base. -/
def configureBlock (draft : ParameterDraft) (id : String) (type : ParameterType)
    (base : ValidationBlock) : Except ActionError ValidationBlock :=
  return {
    renderHint := draft.renderHint.getD base.renderHint
    visibility := draft.visibility.getD base.visibility
    allowedValues := ← draft.configuredValues id type base.allowedValues
    requirement := ← draft.configuredRequirement id type base.requirement
    prefilled := ← draft.configuredPrefill id type base.prefilled
  }

/-- All settings of a parameter. -/
def configure (draft : ParameterDraft) (scope : Scope) (id : String) (type : ParameterType)
    (base : ValidationBlock) : Except ActionError ParameterValidation :=
  return {
    default := ← draft.configureBlock id type base
    overrides := ← draft.overrides.mapM (·.compile scope id type)
  }

end ParameterDraft

end Ontology
