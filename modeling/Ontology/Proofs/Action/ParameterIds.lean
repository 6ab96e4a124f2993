import Ontology.Proofs.Action.Elaboration
import Ontology.Proofs.Action.Synthesis
import Ontology.Proofs.Action.Target
import Ontology.Proofs.Registry.Built

/-!
The parameter ids of compiled actions. An action that is spelled out is refused when it repeats an
id. For a generated action nothing compares the ids of properties with those of structural
parameters, so a property that is called like a structural parameter gives the action two parameters
of one id. `compile_parameterIds_iff` says that this is the only way: unless there is such a clash,
the ids are distinct and the ordering arranges them.
-/

set_option autoImplicit false
set_option relaxedAutoImplicit false

namespace Ontology

open Outcome

variable {registry : Registry} {compiled : CompiledAction} {elaboration : Elaboration}

/-- Some property of the target of a generated action takes a parameter under the id of a structural
parameter. -/
def CrudDefinition.ParametersClash (registry : Registry) (definition : CrudDefinition) : Prop :=
  ∃ target, ActionTarget.resolve registry definition.target = .ok target ∧
    ∃ property ∈ target.properties, definition.takesParameter target property ∧
      property.parameterId ∈ (structuralParameters definition.kind target).map (·.id)

/-- A definition clashes when it is generated and its parameters clash. -/
def ActionDefinition.ParametersClash (registry : Registry) : ActionDefinition → Prop
  | .generated definition => definition.ParametersClash registry
  | .manual _ => False

/-- The parameters of a generated action have distinct ids exactly when they do not clash. -/
theorem CrudDefinition.elaborate_ids_nodup_iff {definition : CrudDefinition}
    (hregistry : registry.Built) (h : definition.elaborate registry = .ok elaboration) :
    elaboration.ids.Nodup ↔ ¬ definition.ParametersClash registry := by
  obtain ⟨target, htarget, hsketches, -⟩ := elaborate_eq_ok_iff.mp h
  have hproperties := ActionTarget.parameterIds_nodup
    (fun _ _ hobject ↦ hregistry.propertyNames_nodup hobject) htarget
  rw [Elaboration.ids, synthesize_ids_nodup_iff hproperties hsketches, ParametersClash]
  constructor
  · rintro hfree ⟨other, hother, property, hproperty, htakes, hclash⟩
    cases htarget.symm.trans hother
    exact hfree property hproperty htakes hclash
  · intro hfree property hproperty htakes hclash
    exact hfree ⟨target, htarget, property, hproperty, htakes, hclash⟩

/-- The parameters of an action that is spelled out have distinct ids, because this is checked. -/
theorem ManualDefinition.elaborate_ids_nodup {definition : ManualDefinition}
    (h : definition.elaborate registry = .ok elaboration) : elaboration.ids.Nodup :=
  (elaborate_eq_ok_iff.mp h).2.1

namespace ActionDefinition

variable {definition : ActionDefinition}

theorem elaborate_ids_nodup_iff (hregistry : registry.Built)
    (h : definition.elaborate registry = .ok elaboration) :
    elaboration.ids.Nodup ↔ ¬ definition.ParametersClash registry := by
  cases definition with
  | generated definition => exact definition.elaborate_ids_nodup_iff hregistry h
  | manual definition => exact iff_of_true (definition.elaborate_ids_nodup h) fun hclash ↦ hclash

/-- The parameters of a compiled action have distinct ids, and the ordering arranges them, exactly
when no property takes a parameter under the id of a structural one. -/
theorem compile_parameterIds_iff (hregistry : registry.Built)
    (h : definition.compile registry = .ok compiled) :
    ((compiled.actionType.parameters.map (·.id)).Nodup ∧
        compiled.actionType.parameterOrdering.Perm (compiled.actionType.parameters.map (·.id))) ↔
      ¬ definition.ParametersClash registry := by
  obtain ⟨elaboration, helaborate, ordering, hordering, hassemble⟩ := compile_eq_ok_iff.mp h
  obtain ⟨layout, -, submission, -, rfl⟩ := ActionFrame.assemble_eq_ok_iff.mp hassemble
  rw [← elaborate_ids_nodup_iff hregistry helaborate, ← parameters_ids helaborate]
  refine and_iff_left_of_imp fun hids ↦ ?_
  -- Only under distinct ids do equal members make a permutation.
  rw [← parameters_ids helaborate] at hordering
  rcases resolveOrdering_eq_ok_iff.mp hordering with ⟨-, rfl⟩ | ⟨-, hnodup, hmem⟩
  · exact .refl _
  · exact (List.perm_ext_iff_of_nodup hnodup hids).mpr hmem

end ActionDefinition

/-- An object `lock` one of whose properties has the name of a structural parameter. -/
def Fixture.lock : List Definition :=
  [.objectType
    { name := .auto "lock"
      primaryKey := some "code"
      properties := [property "code" text, property "objectToModifyParameter" text] }]

/-- An action that edits a lock. -/
def Fixture.editLock : CrudDefinition where
  id := ⟨"com.example.edit-lock"⟩
  kind := .modify
  target := .object ⟨"com.example.lock"⟩

namespace ActionDefinition

/-- The ids are distinct of an action that edits a ticket, but not of one that edits a lock. -/
theorem compile_parameterIds :
    ((generated Fixture.editTicket).compile
      (Fixture.registry Fixture.ticket)).toOption.map (fun compiled ↦
        decide ((compiled.actionType.parameters.map (·.id)).Nodup ∧
          compiled.actionType.parameterOrdering.Perm
            (compiled.actionType.parameters.map (·.id)))) = some true ∧
    ((generated Fixture.editLock).compile
      (Fixture.registry Fixture.lock)).toOption.map (·.actionType.parameters.map (·.id)) =
        some ["objectToModifyParameter", "objectToModifyParameter"] := by
  decide +kernel

theorem not_parametersClash_editTicket :
    (Fixture.registry Fixture.ticket).Built ∧
      ∃ compiled, (generated Fixture.editTicket).compile (Fixture.registry Fixture.ticket) =
          .ok compiled ∧
        ¬ (generated Fixture.editTicket).ParametersClash (Fixture.registry Fixture.ticket) := by
  have hbuilt := Fixture.registry_built Fixture.ticket
  obtain ⟨compiled, hcompile, hdistinct⟩ := exists_of_toOption_map compile_parameterIds.1
  exact ⟨hbuilt, compiled, hcompile,
    (compile_parameterIds_iff hbuilt hcompile).mp (of_decide_eq_true hdistinct)⟩

/-- A property `objectToModifyParameter` and the object to modify share a parameter id. -/
theorem not_forall_parameterIds_nodup :
    ¬ ∀ (registry : Registry) (definition : ActionDefinition) (compiled : CompiledAction),
      registry.Built → definition.compile registry = .ok compiled →
        (compiled.actionType.parameters.map (·.id)).Nodup ∧
          compiled.actionType.parameterOrdering.Perm
            (compiled.actionType.parameters.map (·.id)) := by
  intro hall
  obtain ⟨compiled, hcompile, hids⟩ := exists_of_toOption_map compile_parameterIds.2
  have hdistinct := (hall _ _ _ (Fixture.registry_built _) hcompile).1
  rw [hids] at hdistinct
  exact absurd hdistinct (by decide)

end ActionDefinition

end Ontology
