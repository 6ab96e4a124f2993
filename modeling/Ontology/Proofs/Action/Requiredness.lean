import Ontology.Proofs.Action.Drafts

/-!
How compiled actions write that a value must be given: as bounds on a length where the parameter is
a list, as a flag where it is not. The default settings of every parameter follow this, whatever its
author configures (`ParameterDraft.suits_of_configuredRequirement`). Of the requirements that apply
while a condition holds, those of lists are brought into form, but bounds that an author gives for a
single value stay as they are. `compile_requirements` says that there is no other way to depart from
the rule.
-/

set_option autoImplicit false
set_option relaxedAutoImplicit false

namespace Ontology

open Outcome

variable {id : String} {type : ParameterType}

/-! ### The form of a requirement -/

namespace Requirement

/-- Whether a requirement is one on a length. -/
def isLength : Requirement → Bool
  | .flag _ => false
  | .listLength .. => true

/-- A requirement is written the way that goes with a type. -/
def Suits (type : ParameterType) (requirement : Requirement) : Prop :=
  requirement.isLength = type.isList

instance (requirement : Requirement) : Decidable (requirement.Suits type) :=
  inferInstanceAs (Decidable (requirement.isLength = type.isList))

end Requirement

/-- A type writes requiredness the way that goes with it. -/
theorem ParameterType.suits_requirement {required : Bool} {min max : Option Nat} :
    (type.requirement required min max).Suits type := by
  unfold requirement Requirement.Suits
  split_ifs with hlist <;> simp [Requirement.isLength, hlist]

/-- In the form that goes with a type, only bounds for a type without items are out of place. -/
theorem Requirement.suits_settled_iff {demanded : Requirement} :
    (demanded.settled type).Suits type ↔ type.isList ∨ ¬ demanded.isLength := by
  cases demanded with
  | flag required => exact iff_of_true ParameterType.suits_requirement (.inr Bool.false_ne_true)
  | listLength min max =>
    have hlength : (Requirement.listLength min max).isLength = true := rfl
    simp only [Suits, settled, hlength, not_true_eq_false, or_false, eq_comm]

/-! ### Requirements of parameters -/

/-- The requirement that an effect sets. -/
def Effect.requirement? : Effect → Option Requirement
  | .requirement demanded => some demanded
  | .visibility _ | .prefilled _ | .allowedValues _ => none

@[simp] theorem Effect.requirement?_settled (effect : Effect) :
    (effect.settled type).requirement? = effect.requirement?.map (·.settled type) := by
  cases effect <;> rfl

/-- The requirements of a parameter, by default or while a condition holds. -/
def ParameterValidation.requirements (validation : ParameterValidation) : List Requirement :=
  validation.default.requirement :: validation.effects.filterMap (·.requirement?)

namespace ParameterDraft

variable {draft : ParameterDraft} {scope : Scope} {base : ValidationBlock}
  {validation : ParameterValidation}

/-- The requirements that an author gives while a condition holds. -/
def requirements (draft : ParameterDraft) : List Requirement :=
  draft.effects.filterMap (·.requirement?)

/-- Whatever an author configures, the default requirement is written the way that goes with the
type. -/
theorem suits_of_configuredRequirement {before after : Requirement} (hbefore : before.Suits type)
    (h : draft.configuredRequirement id type before = .ok after) : after.Suits type := by
  unfold configuredRequirement at h
  split at h
  · cases h
    exact hbefore
  · simp only [bind_eq_ok_iff, pure_eq_ok_iff] at h
    obtain ⟨_, -, rfl⟩ := h
    exact ParameterType.suits_requirement

/-- While conditions hold, the requirements are those of the author in the form of the type. -/
theorem requirements_of_configure (h : draft.configure scope id type base = .ok validation) :
    validation.requirements =
      validation.default.requirement :: draft.requirements.map (·.settled type) := by
  simp only [ParameterValidation.requirements, requirements, effects_of_configure h,
    List.filterMap_map, List.map_filterMap, Function.comp_def, Effect.requirement?_settled]

end ParameterDraft

/-! ### Compiled actions -/

namespace ActionDefinition

variable {registry : Registry} {definition : ActionDefinition} {compiled : CompiledAction}

/-- By default every parameter of a compiled action has bounds on its length if it is a list and a
flag if it is not. While conditions hold this stays so exactly when it is a list or its author
bounds no length. -/
theorem compile_requirements (h : definition.compile registry = .ok compiled) :
    ∀ parameter ∈ compiled.actionType.parameters,
      parameter.validation.default.requirement.Suits parameter.type ∧
      ((∀ requirement ∈ parameter.validation.requirements, requirement.Suits parameter.type) ↔
        parameter.type.isList ∨
          ∀ demanded ∈ (definition.draft parameter.id).requirements, ¬ demanded.isLength) := by
  intro parameter hparameter
  obtain ⟨scope, required, hconfigure⟩ := exists_configure_of_compile h hparameter
  have hblock := ParameterDraft.configureBlock_eq_ok_iff.mp
    (ParameterDraft.configure_eq_ok_iff.mp hconfigure).1
  have hdefault : parameter.validation.default.requirement.Suits parameter.type :=
    ParameterDraft.suits_of_configuredRequirement ParameterType.suits_requirement hblock.2.2.2.1
  refine ⟨hdefault, ?_⟩
  rw [ParameterDraft.requirements_of_configure hconfigure, List.forall_mem_cons,
    List.forall_mem_map]
  simp only [hdefault, true_and, Requirement.suits_settled_iff]
  by_cases hlist : parameter.type.isList
  · simp [hlist]
  · simp [hlist]

end ActionDefinition

/-- An action that creates a `foo` with some labels. Its optional text comes under a requirement of
its own, and labels have to be given, as long as a condition holds that always does. -/
def Fixture.labelFoo (demanded : Requirement) : CrudDefinition where
  id := ⟨"com.example.label-foo"⟩
  kind := .create
  target := .object ⟨"com.example.foo"⟩
  configuration :=
    [("optionalProp",
        { overrides := [{ condition := .always, effects := [.requirement demanded] }] }),
      ("labels",
        { type := some (.list .string)
          overrides :=
            [{ condition := .always, effects := [.requirement (.flag true)] }] })]

namespace ActionDefinition

/-- What is demanded of the optional text comes after what is required of it by default, and suits
the text unless it bounds a length. -/
theorem compile_labelFoo :
    ∀ demanded ∈ [Requirement.flag true, .listLength (some 1) (some 3)],
      ((generated (Fixture.labelFoo demanded)).compile
        (Fixture.registry Fixture.foo)).toOption.map (fun compiled ↦
          (compiled.actionType.parameters.map (fun parameter ↦
              (parameter.id, parameter.validation.requirements)),
            compiled.actionType.parameters.all fun parameter ↦
              parameter.validation.requirements.all fun requirement ↦
                decide (requirement.Suits parameter.type))) =
        some ([("bar", [.flag false]), ("optionalProp", [.flag false, demanded]),
          ("labels", [.listLength none none, .listLength (some 1) none])], !demanded.isLength) := by
  decide +kernel

/-- Labels have to be given while a condition holds, which is written as a length of one or more;
that the optional text has to be given is written as a flag. -/
theorem compile_requirements_labelFoo :
    ∃ compiled, (generated (Fixture.labelFoo (.flag true))).compile
        (Fixture.registry Fixture.foo) = .ok compiled ∧
      compiled.actionType.parameters.map (fun parameter ↦
          (parameter.id, parameter.validation.requirements)) =
        [("bar", [.flag false]), ("optionalProp", [.flag false, .flag true]),
          ("labels", [.listLength none none, .listLength (some 1) none])] ∧
      ∀ parameter ∈ compiled.actionType.parameters,
        ∀ requirement ∈ parameter.validation.requirements, requirement.Suits parameter.type := by
  obtain ⟨compiled, hcompile, hview⟩ :=
    exists_of_toOption_map (compile_labelFoo _ List.mem_cons_self)
  obtain ⟨hrequirements, -⟩ := Prod.mk.inj hview
  refine ⟨compiled, hcompile, hrequirements, fun parameter hparameter ↦ ?_⟩
  refine ((compile_requirements hcompile) parameter hparameter).2.mpr ?_
  have hflags : ∀ id ∈ ["bar", "optionalProp", "labels"], ∀ demanded ∈
      ((generated (Fixture.labelFoo (.flag true))).draft id).requirements, ¬ demanded.isLength := by
    decide
  have hids : compiled.actionType.parameters.map (·.id) = ["bar", "optionalProp", "labels"] := by
    simpa [Function.comp_def] using congrArg (List.map Prod.fst) hrequirements
  exact .inr (hflags parameter.id (hids ▸ List.mem_map_of_mem hparameter))

/-- A text that is bounded to one to three items while a condition holds stays so. -/
theorem not_forall_requirements_suit :
    ¬ ∀ (registry : Registry) (definition : ActionDefinition) (compiled : CompiledAction),
      definition.compile registry = .ok compiled →
        ∀ parameter ∈ compiled.actionType.parameters,
          ∀ requirement ∈ parameter.validation.requirements,
            requirement.Suits parameter.type := by
  intro hall
  obtain ⟨compiled, hcompile, hview⟩ :=
    exists_of_toOption_map (compile_labelFoo (.listLength (some 1) (some 3)) (by simp))
  have hfails := ne_true_of_eq_false (Prod.mk.inj hview).2
  have hsuit := hall _ _ _ hcompile
  rw [List.all_eq_true] at hfails
  refine hfails fun parameter hparameter ↦ List.all_eq_true.mpr fun requirement hrequirement ↦ ?_
  exact decide_eq_true (hsuit parameter hparameter requirement hrequirement)

end ActionDefinition

end Ontology
