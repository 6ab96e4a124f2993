import Ontology.Proofs.Action.Scope
import Ontology.Scenario.Fixture

/-!
The stages of a compilation. A definition of either kind is first elaborated: it settles its
parameters and its rules, and neither the order of the parameters nor the layout of the form has a
say in that. What an elaboration consists of is said once for each kind of definition
(`elaborate_eq_ok_iff`). `compile_eq_ok_iff` says that a compilation succeeds exactly when the
elaboration does, the ordering passes, and the frame can be assembled around what was elaborated.
-/

set_option autoImplicit false
set_option relaxedAutoImplicit false

namespace Ontology

open Outcome

/-! ### Elaboration -/

/-- What a definition settles about an action before its parameters are ordered and laid out. -/
structure Elaboration where
  sketches : List ParameterSketch
  parameters : List Parameter
  rules : List Rule
  /-- The display name of an action without one of its own. -/
  displayName : String

namespace Elaboration

/-- The ids of the parameters in the order of their declaration. -/
def ids (elaboration : Elaboration) : List String := elaboration.sketches.map (·.id)

/-- The parameters as a scope. -/
def scope (elaboration : Elaboration) : Scope := ParameterSketch.scope elaboration.sketches

end Elaboration

/-- The elaboration of a generated action. -/
def CrudDefinition.elaborate (registry : Registry) (definition : CrudDefinition) :
    Except ActionError Elaboration := do
  let target ← ActionTarget.resolve registry definition.target
  let sketches ← definition.synthesize target
  let scope := ParameterSketch.scope sketches
  let parameters ← sketches.mapM fun sketch ↦
    sketch.build scope (definition.configuration? sketch.id)
  let rule ← definition.rule registry scope target
  return ⟨sketches, parameters, [rule], definition.kind.defaultDisplayName target.displayName⟩

/-- The elaboration of an action that is spelled out. -/
def ManualDefinition.elaborate (registry : Registry) (definition : ManualDefinition) :
    Except ActionError Elaboration := do
  checkDistinct [] (definition.parameters.map (·.id))
  let sketches := definition.parameters.map (·.sketch)
  let scope := ParameterSketch.scope sketches
  definition.rules.forM (·.check registry scope)
  let parameters ← definition.parameters.mapM fun parameter ↦
    parameter.sketch.build scope (some parameter.draft)
  return ⟨sketches, parameters, definition.rules, definition.id.localName⟩

section

variable {registry : Registry} {elaboration : Elaboration}

/-- A generated action is elaborated when its target resolves, its parameters can be synthesized and
built, and there is a rule for it. -/
theorem CrudDefinition.elaborate_eq_ok_iff {definition : CrudDefinition} :
    definition.elaborate registry = .ok elaboration ↔
      ∃ target, ActionTarget.resolve registry definition.target = .ok target ∧
        definition.synthesize target = .ok elaboration.sketches ∧
        elaboration.sketches.mapM (fun sketch ↦
            sketch.build elaboration.scope (definition.configuration? sketch.id)) =
          .ok elaboration.parameters ∧
        (∃ rule, definition.rule registry elaboration.scope target = .ok rule ∧
          elaboration.rules = [rule]) ∧
        elaboration.displayName = definition.kind.defaultDisplayName target.displayName := by
  simp only [elaborate, bind_eq_ok_iff, pure_eq_ok_iff]
  constructor
  · rintro ⟨target, htarget, sketches, hsketches, parameters, hparameters, rule, hrule, rfl⟩
    exact ⟨target, htarget, hsketches, hparameters, ⟨rule, hrule, rfl⟩, rfl⟩
  · obtain ⟨sketches, parameters, rules, displayName⟩ := elaboration
    rintro ⟨target, htarget, hsketches, hparameters, ⟨rule, hrule, rfl⟩, rfl⟩
    exact ⟨target, htarget, sketches, hsketches, parameters, hparameters, rule, hrule, rfl⟩

/-- An action that is spelled out is elaborated when its parameters have ids of their own, its rules
pass, and its parameters can be built. -/
theorem ManualDefinition.elaborate_eq_ok_iff {definition : ManualDefinition} :
    definition.elaborate registry = .ok elaboration ↔
      elaboration.sketches = definition.parameters.map (·.sketch) ∧
        elaboration.ids.Nodup ∧
        (∀ rule ∈ definition.rules, rule.check registry elaboration.scope = .ok ()) ∧
        definition.parameters.mapM (fun parameter ↦
            parameter.sketch.build elaboration.scope (some parameter.draft)) =
          .ok elaboration.parameters ∧
        elaboration.rules = definition.rules ∧
        elaboration.displayName = definition.id.localName := by
  have hids : (definition.parameters.map (·.sketch)).map (·.id) =
      definition.parameters.map (·.id) := by
    rw [List.map_map]
    rfl
  have hdistinct : checkDistinct [] (definition.parameters.map (·.id)) = .ok () ↔
      ((definition.parameters.map (·.sketch)).map (·.id)).Nodup := by
    rw [checkDistinct_eq_ok_iff, hids]
    exact and_iff_left fun _ _ ↦ List.not_mem_nil
  simp only [elaborate, bind_eq_ok_iff, pure_eq_ok_iff]
  constructor
  · rintro ⟨_, hunique, _, hrules, parameters, hparameters, rfl⟩
    exact ⟨rfl, hdistinct.mp hunique, forM_eq_ok_iff.mp hrules, hparameters, rfl, rfl⟩
  · obtain ⟨sketches, parameters, rules, displayName⟩ := elaboration
    rintro ⟨rfl, hunique, hrules, hparameters, rfl, rfl⟩
    exact ⟨(), hdistinct.mpr hunique, (), forM_eq_ok_iff.mpr hrules, parameters, hparameters, rfl⟩

end

/-! ### Definitions of either kind -/

/-- An action as its author describes it, generated or spelled out. -/
inductive ActionDefinition where
  | generated (definition : CrudDefinition)
  | manual (definition : ManualDefinition)

namespace ActionDefinition

/-- The identifier of the action. -/
def id : ActionDefinition → Identifier
  | .generated definition => definition.id
  | .manual definition => definition.id

/-- What the definition says beside its parameters and rules. -/
def frame : ActionDefinition → ActionFrame
  | .generated definition => definition.toActionFrame
  | .manual definition => definition.toActionFrame

/-- Compiles a definition of either kind. -/
def compile (registry : Registry) : ActionDefinition → Except ActionError CompiledAction
  | .generated definition => definition.compile registry
  | .manual definition => definition.compile registry

/-- Elaborates a definition of either kind. -/
def elaborate (registry : Registry) : ActionDefinition → Except ActionError Elaboration
  | .generated definition => definition.elaborate registry
  | .manual definition => definition.elaborate registry

end ActionDefinition

/-! ### Compilation in stages -/

variable {registry : Registry}

namespace ParameterSketch

variable {scope : Scope} {draft : Option ParameterDraft} {sketch : ParameterSketch}
  {parameter : Parameter}

/-- All settings of a parameter, of which there may be none by its author. -/
def validation (scope : Scope) (draft : Option ParameterDraft) (sketch : ParameterSketch) :
    Except ActionError ParameterValidation :=
  match draft with
  | none => .ok ⟨sketch.base, []⟩
  | some draft => draft.configure scope sketch.id sketch.type sketch.base

theorem build_eq_map :
    sketch.build scope draft =
      (fun validation ↦
        ⟨sketch.id, sketch.displayName, sketch.description, sketch.type, validation⟩) <$>
          sketch.validation scope draft := by
  cases draft <;> rfl

/-- A parameter is built when its settings are, and carries the rest of its sketch along. -/
theorem build_eq_ok_iff :
    sketch.build scope draft = .ok parameter ↔
      ∃ validation, sketch.validation scope draft = .ok validation ∧
        ⟨sketch.id, sketch.displayName, sketch.description, sketch.type, validation⟩ =
          parameter := by
  rw [build_eq_map, map_eq_ok_iff]

theorem build_id (h : sketch.build scope draft = .ok parameter) : parameter.id = sketch.id := by
  obtain ⟨validation, -, rfl⟩ := build_eq_ok_iff.mp h
  rfl

end ParameterSketch

namespace ActionDefinition

variable {definition : ActionDefinition} {compiled : CompiledAction} {elaboration : Elaboration}

/-- A compilation succeeds when the elaboration does, the ordering passes, and the frame can be
assembled around what was elaborated. -/
theorem compile_eq_ok_iff :
    definition.compile registry = .ok compiled ↔
      ∃ elaboration, definition.elaborate registry = .ok elaboration ∧
        ∃ ordering, resolveOrdering definition.id elaboration.ids definition.frame.ordering =
            .ok ordering ∧
          definition.frame.assemble definition.id elaboration.scope elaboration.displayName
            elaboration.rules elaboration.parameters ordering = .ok compiled := by
  cases definition with
  | generated definition =>
    simp only [compile, elaborate, id, frame, CrudDefinition.compile, CrudDefinition.elaborate,
      bind_eq_ok_iff, pure_eq_ok_iff]
    constructor
    · rintro ⟨target, htarget, sketches, hsketches, ordering, hordering, parameters, hparameters,
        rule, hrule, hassemble⟩
      exact ⟨_, ⟨target, htarget, sketches, hsketches, parameters, hparameters, rule, hrule, rfl⟩,
        ordering, hordering, hassemble⟩
    · rintro ⟨_, ⟨target, htarget, sketches, hsketches, parameters, hparameters, rule, hrule, rfl⟩,
        ordering, hordering, hassemble⟩
      exact ⟨target, htarget, sketches, hsketches, ordering, hordering, parameters, hparameters,
        rule, hrule, hassemble⟩
  | manual definition =>
    have hids : (definition.parameters.map (·.sketch)).map (·.id) =
        definition.parameters.map (·.id) := by
      rw [List.map_map]
      rfl
    simp only [compile, elaborate, id, frame, ManualDefinition.compile,
      ManualDefinition.elaborate, bind_eq_ok_iff, pure_eq_ok_iff]
    constructor
    · rintro ⟨_, hdistinct, ordering, hordering, _, hrules, parameters, hparameters, hassemble⟩
      refine ⟨_, ⟨_, hdistinct, _, hrules, parameters, hparameters, rfl⟩, ordering, ?_, hassemble⟩
      rw [Elaboration.ids, hids]
      exact hordering
    · rintro ⟨_, ⟨_, hdistinct, _, hrules, parameters, hparameters, rfl⟩, ordering, hordering,
        hassemble⟩
      rw [Elaboration.ids, hids] at hordering
      exact ⟨_, hdistinct, ordering, hordering, _, hrules, parameters, hparameters, hassemble⟩

/-- The parameters of an elaboration are built from its sketches. -/
theorem exists_build_of_elaborate (h : definition.elaborate registry = .ok elaboration) :
    List.Forall₂ (fun sketch parameter ↦ ∃ draft : Option ParameterDraft,
      sketch.build elaboration.scope draft = .ok parameter)
        elaboration.sketches elaboration.parameters := by
  cases definition with
  | generated definition =>
    obtain ⟨target, -, -, hparameters, -⟩ := CrudDefinition.elaborate_eq_ok_iff.mp h
    exact (mapM_eq_ok_iff.mp hparameters).imp fun _ _ hbuild ↦ ⟨_, hbuild⟩
  | manual definition =>
    obtain ⟨hsketches, -, -, hparameters, -⟩ := ManualDefinition.elaborate_eq_ok_iff.mp h
    rw [hsketches, List.forall₂_map_left_iff]
    exact (mapM_eq_ok_iff.mp hparameters).imp fun _ _ hbuild ↦ ⟨_, hbuild⟩

/-- The parameters of an elaboration have the ids of its sketches. -/
theorem parameters_ids (h : definition.elaborate registry = .ok elaboration) :
    elaboration.parameters.map (·.id) = elaboration.ids := by
  rw [Elaboration.ids, eq_comm, ← List.forall₂_eq_eq_eq, List.forall₂_map_left_iff,
    List.forall₂_map_right_iff]
  refine (exists_build_of_elaborate h).imp fun sketch parameter hbuild ↦ ?_
  obtain ⟨draft, hbuild⟩ := hbuild
  exact (ParameterSketch.build_id hbuild).symm

end ActionDefinition

/-! ### Assembly -/

namespace ActionFrame

variable {frame : ActionFrame} {id : Identifier} {scope : Scope} {displayName : String}
  {rules : List Rule} {parameters : List Parameter} {ordering : List String}
  {compiled : CompiledAction}

/-- A frame is assembled when its sections lay out and its conditions on the submission compile. -/
theorem assemble_eq_ok_iff :
    frame.assemble id scope displayName rules parameters ordering = .ok compiled ↔
      ∃ layout, SectionLayout.ofDrafts scope ordering frame.sections = .ok layout ∧
        ∃ submission, frame.submissionRules scope = .ok submission ∧
          { actionType :=
              { id
                display := frame.display displayName
                logic := rules
                parameters
                parameterOrdering := ordering
                validation := ⟨submission, layout.validations⟩
                sections := layout.sections
                formContent := formContent layout.sections ordering
                submission := frame.metadata.submission }
            permission := frame.permission id } = compiled := by
  simp only [assemble, bind_eq_ok_iff, pure_eq_ok_iff]

end ActionFrame

/-- A compiled action has the rules and the parameters of its elaboration. -/
theorem ActionDefinition.exists_elaboration_of_compile {definition : ActionDefinition}
    {compiled : CompiledAction} (h : definition.compile registry = .ok compiled) :
    ∃ elaboration, definition.elaborate registry = .ok elaboration ∧
      compiled.actionType.logic = elaboration.rules ∧
      compiled.actionType.parameters = elaboration.parameters := by
  obtain ⟨elaboration, helaborate, ordering, -, hassemble⟩ := compile_eq_ok_iff.mp h
  obtain ⟨layout, -, submission, -, rfl⟩ := ActionFrame.assemble_eq_ok_iff.mp hassemble
  exact ⟨elaboration, helaborate, rfl, rfl⟩

/-! ### An action that compiles -/

/-- The action on tickets compiles, with one parameter for each property that it fills in and one
for the reason. -/
theorem Fixture.editTicket_compile :
    ∃ compiled, (ActionDefinition.generated editTicket).compile (Fixture.registry ticket) =
        .ok compiled ∧
      compiled.actionType.parameters.map (·.id) =
        ["objectToModifyParameter", "title", "priority", "estimate", "tags", "reason"] := by
  have hids : ((ActionDefinition.generated editTicket).compile
      (Fixture.registry ticket)).toOption.map (·.actionType.parameters.map (·.id)) =
        some ["objectToModifyParameter", "title", "priority", "estimate", "tags", "reason"] := by
    decide +kernel
  exact exists_of_toOption_map hids

end Ontology
