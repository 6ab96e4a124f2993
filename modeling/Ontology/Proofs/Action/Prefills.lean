import Ontology.Proofs.Action.Drafts
import Ontology.Proofs.Action.References

/-!
The parameters that prefills read. A prefill may take a property of the object that another
parameter holds. Conditions, rules and sections are refused when they name a parameter that the
action does not have, but the check of a prefill looks at static values only. The prefills of a
compiled action are those of its author, by default and while a condition holds
(`ParameterDraft.prefills_of_configure`). So nothing but the author keeps them within the parameters
of the action (`compile_prefills`), and a prefill that reads a parameter which does not exist comes
through (`not_forall_prefillsClosed`).
-/

set_option autoImplicit false
set_option relaxedAutoImplicit false

namespace Ontology

open Outcome

/-! ### Prefills and what they read -/

/-- The parameter that a prefill reads, if any. -/
def Prefill.parameter? : Prefill → Option String
  | .objectProperty id _ => some id
  | .literal _ | .currentUser | .currentTime => none

/-- The prefills of an action read its own parameters only. -/
def ActionType.PrefillsClosed (action : ActionType) : Prop :=
  ∀ parameter ∈ action.parameters, ∀ prefill ∈ parameter.validation.prefills,
    ∀ id ∈ prefill.parameter?, id ∈ action.parameterIds

@[simp] theorem Effect.prefill?_settled (effect : Effect) (type : ParameterType) :
    (effect.settled type).prefill? = effect.prefill? := by
  cases effect <;> rfl

namespace ParameterDraft

variable {draft : ParameterDraft} {scope : Scope} {id : String} {type : ParameterType}

/-- The prefills that an author gives, by default or while a condition holds. -/
def prefills (draft : ParameterDraft) : List Prefill :=
  draft.prefilled.toList ++ draft.effects.filterMap (·.prefill?)

/-- Without a prefill in the base, there is one if the author gives it. -/
theorem eq_of_configuredPrefill {prefilled : Option Prefill}
    (h : draft.configuredPrefill id type none = .ok prefilled) : prefilled = draft.prefilled := by
  unfold configuredPrefill at h
  split at h
  · next hnone =>
    cases h
    exact hnone.symm
  · next given hgiven =>
    simp only [bind_eq_ok_iff, pure_eq_ok_iff] at h
    obtain ⟨_, -, rfl⟩ := h
    exact hgiven.symm

/-- The prefills of a parameter are those of its author. -/
theorem prefills_of_configure {required : Bool} {validation : ParameterValidation}
    (h : draft.configure scope id type (type.defaultBlock required) = .ok validation) :
    validation.prefills = draft.prefills := by
  have hblock := configureBlock_eq_ok_iff.mp (configure_eq_ok_iff.mp h).1
  have hdefault : validation.default.prefilled = draft.prefilled :=
    eq_of_configuredPrefill hblock.2.2.2.2
  simp only [ParameterValidation.prefills, prefills, hdefault, effects_of_configure h,
    List.filterMap_map, Function.comp_def, Effect.prefill?_settled]

end ParameterDraft

/-! ### Compiled actions -/

namespace ActionDefinition

variable {registry : Registry} {definition : ActionDefinition} {compiled : CompiledAction}

/-- Every parameter of a compiled action has the prefills of its draft and no others. So the
prefills of the action read its own parameters exactly when all those that its author gives do. -/
theorem compile_prefills (h : definition.compile registry = .ok compiled) :
    (∀ parameter ∈ compiled.actionType.parameters,
      parameter.validation.prefills = (definition.draft parameter.id).prefills) ∧
    (compiled.actionType.PrefillsClosed ↔
      ∀ entry ∈ definition.drafts, ∀ prefill ∈ entry.2.prefills,
        ∀ id ∈ prefill.parameter?, id ∈ compiled.actionType.parameterIds) := by
  have hprefills : ∀ parameter ∈ compiled.actionType.parameters,
      parameter.validation.prefills = (definition.draft parameter.id).prefills := by
    intro parameter hparameter
    obtain ⟨scope, required, hconfigure⟩ := exists_configure_of_compile h hparameter
    exact ParameterDraft.prefills_of_configure hconfigure
  refine ⟨hprefills, fun hclosed ↦ ?_, fun hclosed ↦ ?_⟩
  · intro entry hentry prefill hprefill
    obtain ⟨hdraft, parameter, hparameter, hid⟩ := draft_of_mem_drafts h hentry
    refine hclosed parameter hparameter prefill ?_
    rw [hprefills parameter hparameter, hid, hdraft]
    exact hprefill
  · intro parameter hparameter prefill hprefill
    rw [hprefills parameter hparameter] at hprefill
    rcases definition.draft_eq_empty_or parameter.id with hempty | ⟨entry, hentry, -, hdraft⟩
    · rw [hempty] at hprefill
      cases hprefill
    · rw [← hdraft] at hprefill
      exact hclosed entry hentry prefill hprefill

/-- Whichever parameter a `foo` is copied from, the action has the same parameters. -/
theorem compile_copyFoo_prefills :
    ∀ model ∈ ["original", "template"],
      ((generated (Fixture.copyFoo model)).compile
        (Fixture.registry Fixture.foo)).toOption.map (fun compiled ↦
          (compiled.actionType.parameterIds,
            compiled.actionType.parameters.flatMap fun parameter ↦
              parameter.validation.prefills.filterMap (·.parameter?))) =
        some (["bar", "optionalProp", "original"], [model]) := by
  decide +kernel

/-- A `foo` that is copied from an object which another parameter holds. -/
theorem compile_prefills_copyFoo :
    ∃ compiled, (generated (Fixture.copyFoo "original")).compile (Fixture.registry Fixture.foo) =
        .ok compiled ∧
      compiled.actionType.parameterIds = ["bar", "optionalProp", "original"] ∧
      (∃ parameter ∈ compiled.actionType.parameters, parameter.id = "optionalProp" ∧
        parameter.validation.prefills = [.objectProperty "original" "optionalProp"]) ∧
      compiled.actionType.PrefillsClosed := by
  obtain ⟨compiled, hcompile, hview⟩ :=
    exists_of_toOption_map (compile_copyFoo_prefills _ List.mem_cons_self)
  obtain ⟨hids, -⟩ := Prod.mk.inj hview
  obtain ⟨hprefills, hclosed⟩ := compile_prefills hcompile
  obtain ⟨parameter, hparameter, hid⟩ : ∃ parameter ∈ compiled.actionType.parameters,
      parameter.id = "optionalProp" := by
    have hmem : "optionalProp" ∈ compiled.actionType.parameterIds := by
      rw [hids]
      decide
    simpa [ActionType.parameterIds] using hmem
  refine ⟨compiled, hcompile, hids, ⟨parameter, hparameter, hid, ?_⟩, hclosed.mpr ?_⟩
  · rw [hprefills parameter hparameter, hid]
    rfl
  · rw [hids]
    decide

/-- A `foo` is copied from the object that a parameter holds which the action does not have. -/
theorem not_forall_prefillsClosed :
    ¬ ∀ (registry : Registry) (definition : ActionDefinition) (compiled : CompiledAction),
      definition.compile registry = .ok compiled → compiled.actionType.PrefillsClosed := by
  intro hall
  obtain ⟨compiled, hcompile, hview⟩ :=
    exists_of_toOption_map (compile_copyFoo_prefills "template" (by simp))
  obtain ⟨hids, hreads⟩ := Prod.mk.inj hview
  have hmem : "template" ∈ compiled.actionType.parameters.flatMap fun parameter ↦
      parameter.validation.prefills.filterMap (·.parameter?) := by
    rw [hreads]
    exact List.mem_cons_self
  obtain ⟨parameter, hparameter, hmem⟩ := List.mem_flatMap.mp hmem
  obtain ⟨prefill, hprefill, hread⟩ := List.mem_filterMap.mp hmem
  have hdeclared := hall _ _ _ hcompile parameter hparameter prefill hprefill "template" hread
  rw [hids] at hdeclared
  exact absurd hdeclared (by decide)

end ActionDefinition

end Ontology
