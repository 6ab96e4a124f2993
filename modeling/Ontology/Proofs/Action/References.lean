import Ontology.Proofs.Action.Elaboration
import Ontology.Proofs.Action.GeneratedRules
import Ontology.Proofs.Action.Layout

/-!
Where a compiled action mentions parameters and sections. `ActionType.ReferencesClosed` says that
each mention is of a parameter or a section of the action itself, and that the ordering leaves no
parameter out. Every stage of a compilation sees the same scope, which declares the ids of the
parameters and no others, so it is enough that each stage reads declared parameters only
(`compile_referencesClosed`).
-/

set_option autoImplicit false
set_option relaxedAutoImplicit false

namespace Ontology

open Outcome

variable {registry : Registry} {scope : Scope}

/-! ### Closed actions -/

/-- The ids of the parameters of an action. -/
def ActionType.parameterIds (action : ActionType) : List String :=
  action.parameters.map (·.id)

/-- Everything that an action says of parameters and sections, it says of its own. -/
structure ActionType.ReferencesClosed (action : ActionType) : Prop where
  ordering : ∀ id, id ∈ action.parameterOrdering ↔ id ∈ action.parameterIds
  sections : ∀ group ∈ action.sections, ∀ id ∈ group.parameters, id ∈ action.parameterIds
  form : ∀ item ∈ action.formContent, item.StandsIn action.sections action.parameterIds
  rules : ∀ rule ∈ action.logic, ∀ id ∈ rule.parameters, id ∈ action.parameterIds
  submission : ∀ rule ∈ action.validation.actionLevel,
    ∀ id ∈ rule.condition.parameters, id ∈ action.parameterIds
  sectionOverrides : ∀ validation ∈ action.validation.sections, ∀ change ∈ validation.overrides,
    ∀ id ∈ change.condition.parameters, id ∈ action.parameterIds
  parameterOverrides : ∀ parameter ∈ action.parameters,
    ∀ change ∈ parameter.validation.overrides,
      ∀ id ∈ change.condition.parameters, id ∈ action.parameterIds
  sectionValidations : ∀ validation ∈ action.validation.sections,
    validation.sectionId ∈ action.sections.map (·.id)

/-! ### Parameters -/

theorem EffectsDraft.compile_declares {id : String} {type : ParameterType} {draft : EffectsDraft}
    {effects : ConditionalEffects} (h : draft.compile scope id type = .ok effects) :
    ∀ id ∈ effects.condition.parameters, scope.declares id := by
  simp only [compile, bind_eq_ok_iff, pure_eq_ok_iff] at h
  obtain ⟨condition, hcondition, _, -, rfl⟩ := h
  exact ConditionDraft.compile_declares hcondition

/-- The conditions on the settings of a parameter read declared parameters only. -/
theorem ParameterSketch.build_declares {draft : Option ParameterDraft} {sketch : ParameterSketch}
    {parameter : Parameter} (h : sketch.build scope draft = .ok parameter) :
    ∀ change ∈ parameter.validation.overrides,
      ∀ id ∈ change.condition.parameters, scope.declares id := by
  obtain ⟨validation, hvalidation, rfl⟩ := build_eq_ok_iff.mp h
  intro change hchange
  cases draft with
  | none =>
    cases hvalidation
    cases hchange
  | some draft =>
    simp only [ParameterSketch.validation, ParameterDraft.configure, bind_eq_ok_iff,
      pure_eq_ok_iff] at hvalidation
    obtain ⟨_, -, overrides, hoverrides, rfl⟩ := hvalidation
    obtain ⟨effects, -, heffects⟩ := exists_of_mem_mapM hoverrides hchange
    exact EffectsDraft.compile_declares heffects

/-! ### Elaborations -/

namespace Elaboration

variable {elaboration : Elaboration}

theorem declares_iff {id : String} : elaboration.scope.declares id ↔ id ∈ elaboration.ids := by
  rw [Scope.declares_iff, scope, ParameterSketch.scope, List.map_map]
  rfl

/-- What an elaboration settles reads declared parameters only. -/
structure ReadsDeclared (elaboration : Elaboration) : Prop where
  rules : ∀ rule ∈ elaboration.rules, ∀ id ∈ rule.parameters, elaboration.scope.declares id
  parameters : ∀ parameter ∈ elaboration.parameters,
    ∀ change ∈ parameter.validation.overrides,
      ∀ id ∈ change.condition.parameters, elaboration.scope.declares id

end Elaboration

/-! ### Conditions on the submission -/

namespace Condition

theorem parametersOfAll_memberOf (groups : List String) :
    parametersOfAll (groups.map memberOf) = [] := by
  induction groups with
  | nil => rfl
  | cons group rest ih =>
    rw [List.map_cons, parametersOfAll, ih, memberOf, parameters]
    rfl

end Condition

namespace ActionFrame

variable {frame : ActionFrame}

theorem submitterRules_parameters {rule : SubmissionRule} (h : rule ∈ frame.submitterRules) :
    rule.condition.parameters = [] := by
  unfold submitterRules at h
  split at h
  · cases h
  · rw [List.mem_singleton.mp h]
    exact Condition.parametersOfAll_memberOf _

/-- The conditions on a submission read declared parameters only. The ones that are added, on groups
and in place of none, read no parameter at all. -/
theorem submissionRules_declares {rules : List SubmissionRule}
    (h : frame.submissionRules scope = .ok rules) :
    ∀ rule ∈ rules, ∀ id ∈ rule.condition.parameters, scope.declares id := by
  simp only [submissionRules, bind_eq_ok_iff] at h
  obtain ⟨declared, hdeclared, h⟩ := h
  have hall : ∀ rule ∈ declared ++ frame.submitterRules,
      ∀ id ∈ rule.condition.parameters, scope.declares id := by
    intro rule hrule
    rcases List.mem_append.mp hrule with hrule | hrule
    · obtain ⟨draft, -, hcompile⟩ := exists_of_mem_mapM hdeclared hrule
      simp only [bind_eq_ok_iff, pure_eq_ok_iff] at hcompile
      obtain ⟨condition, hcondition, rfl⟩ := hcompile
      exact ConditionDraft.compile_declares hcondition
    · simp [submitterRules_parameters hrule]
  intro rule hrule
  split at h
  · rw [pure_eq_ok_iff] at h
    rw [← h] at hrule
    simp [List.mem_singleton.mp hrule, SubmissionRule.always, Condition.parameters]
  · next hrules =>
    rw [pure_eq_ok_iff] at h
    exact hall rule (hrules ▸ h ▸ hrule)

end ActionFrame

/-! ### Compiled actions -/

namespace ActionDefinition

variable {definition : ActionDefinition} {elaboration : Elaboration} {compiled : CompiledAction}

/-- The values in the rules of an elaboration have been accepted, be they generated or written by
hand. -/
theorem grounded_of_elaborate (h : definition.elaborate registry = .ok elaboration) :
    ∀ rule ∈ elaboration.rules, rule.Grounded registry elaboration.scope := by
  cases definition with
  | generated definition =>
    obtain ⟨target, -, -, -, ⟨rule, hrule, hrules⟩, -⟩ := CrudDefinition.elaborate_eq_ok_iff.mp h
    rw [hrules, List.forall_mem_singleton]
    exact (CrudDefinition.emits_of_rule hrule).grounded
  | manual definition =>
    obtain ⟨-, -, hpass, -, hrules, -⟩ := ManualDefinition.elaborate_eq_ok_iff.mp h
    rw [hrules]
    exact fun rule hrule ↦ (Rule.check_eq_ok_iff.mp (hpass rule hrule)).grounded

theorem elaborate_readsDeclared (h : definition.elaborate registry = .ok elaboration) :
    elaboration.ReadsDeclared := by
  refine ⟨fun rule hrule ↦ (grounded_of_elaborate h rule hrule).declares,
    fun parameter hparameter ↦ ?_⟩
  obtain ⟨sketch, -, draft, hbuild⟩ :=
    exists_of_mem_forall₂ (exists_build_of_elaborate h) hparameter
  exact ParameterSketch.build_declares hbuild

/-- Every parameter and every section that a compiled action mentions is its own, and its ordering
mentions all parameters. -/
theorem compile_referencesClosed (h : definition.compile registry = .ok compiled) :
    compiled.actionType.ReferencesClosed := by
  obtain ⟨elaboration, helaborate, ordering, hordering, hassemble⟩ := compile_eq_ok_iff.mp h
  obtain ⟨layout, hlayout, submission, hsubmission, rfl⟩ :=
    ActionFrame.assemble_eq_ok_iff.mp hassemble
  have hids : elaboration.parameters.map (·.id) = elaboration.ids := parameters_ids helaborate
  have hdeclared : ∀ id, elaboration.scope.declares id →
      id ∈ elaboration.parameters.map (·.id) := fun id hid ↦
    hids ▸ Elaboration.declares_iff.mp hid
  have harranged : ∀ id, id ∈ ordering ↔ id ∈ elaboration.parameters.map (·.id) := fun id ↦
    hids ▸ mem_iff_of_resolveOrdering hordering id
  have hreads := elaborate_readsDeclared helaborate
  constructor
  case ordering => exact harranged
  case sections =>
    intro group hgroup id hid
    exact (harranged id).mp (SectionLayout.mem_of_ofDrafts hlayout group hgroup id hid)
  case form =>
    intro item hitem
    have hstands : item.StandsIn layout.sections ordering := formContent_standsIn hitem
    cases item with
    | parameter id => exact (harranged id).mp hstands
    | «section» id => exact hstands
  case rules =>
    intro rule hrule id hid
    exact hdeclared id (hreads.rules rule hrule id hid)
  case submission =>
    intro rule hrule id hid
    exact hdeclared id (ActionFrame.submissionRules_declares hsubmission rule hrule id hid)
  case sectionOverrides =>
    intro validation hvalidation change hchange id hid
    exact hdeclared id
      (SectionLayout.declares_of_ofDrafts hlayout validation hvalidation change hchange id hid)
  case parameterOverrides =>
    intro parameter hparameter change hchange id hid
    exact hdeclared id (hreads.parameters parameter hparameter change hchange id hid)
  case sectionValidations =>
    intro validation hvalidation
    rw [← SectionLayout.sectionIds_of_ofDrafts hlayout]
    exact List.mem_map_of_mem hvalidation

theorem referencesClosed_editTicket :
    ∃ compiled, (generated Fixture.editTicket).compile (Fixture.registry Fixture.ticket) =
        .ok compiled ∧ compiled.actionType.ReferencesClosed := by
  obtain ⟨compiled, hcompile, -⟩ := Fixture.editTicket_compile
  exact ⟨compiled, hcompile, compile_referencesClosed hcompile⟩

end ActionDefinition

end Ontology
