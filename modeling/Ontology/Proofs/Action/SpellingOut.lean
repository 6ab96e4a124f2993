import Ontology.Proofs.Action.GeneratedRules
import Ontology.Proofs.Action.Settings
import Ontology.Proofs.Action.Synthesis
import Ontology.Proofs.Registry.Built

/-!
Spelling out a generated action. `CrudDefinition.spelledOut` writes the parameters and the rule of a
generated action as an author would have to: every parameter with its type and with the settings
that it has, the rule as it was emitted. Where the parameters have ids of their own, compiling this
gives the same action (`compile_spelledOut`). The two ways meet parameter by parameter
(`build_spelledOut`), and the check of rules that are written by hand finds the entities again that
the emitted rule was made from.
-/

set_option autoImplicit false
set_option relaxedAutoImplicit false

namespace Ontology

open Outcome

namespace CrudDefinition

variable {registry : Registry} {definition : CrudDefinition} {target : ActionTarget}
  {sketches : List ParameterSketch} {sketch : ParameterSketch} {scope : Scope}

/-! ### Parameters -/

/-- The settings that the author of a generated action gives to a parameter, with what is left open
filled in. -/
def spelledOutDraft (definition : CrudDefinition) (sketch : ParameterSketch) : ParameterDraft :=
  ((definition.configuration? sketch.id).getD {}).filled sketch

/-- A parameter of a generated action as one that is declared by hand. -/
def spelledOutParameter (definition : CrudDefinition) (sketch : ParameterSketch) :
    ManualParameter :=
  ⟨sketch.id, sketch.type, definition.spelledOutDraft sketch⟩

/-- Naming a parameter twice is naming it once. -/
theorem relabel_relabel (parameter : ParameterSketch) :
    definition.relabel (definition.relabel parameter) = definition.relabel parameter := by
  cases hdraft : definition.configuration? parameter.id with
  | none => simp only [relabel, hdraft]
  | some draft =>
    simp only [relabel, hdraft]
    cases draft.displayName <;> cases draft.description <;> rfl

/-- Synthesized parameters go by the names that their author gives them. -/
theorem relabel_of_synthesize (h : definition.synthesize target = .ok sketches)
    (hsketch : sketch ∈ sketches) : definition.relabel sketch = sketch := by
  obtain ⟨-, ofProperties, -, added, -, rfl⟩ := synthesize_eq_ok_iff.mp h
  obtain ⟨parameter, -, rfl⟩ := List.mem_map.mp hsketch
  exact relabel_relabel parameter

theorem names_of_relabel {draft : ParameterDraft} (hsketch : definition.relabel sketch = sketch)
    (hdraft : definition.configuration? sketch.id = some draft) :
    draft.displayName.getD sketch.displayName = sketch.displayName ∧
      draft.description.or sketch.description = sketch.description := by
  rw [relabel, hdraft] at hsketch
  exact ⟨congrArg (·.displayName) hsketch, congrArg (·.description) hsketch⟩

/-- Declared by hand, a parameter is sketched as it was, but for the requiredness that its author
asks for. -/
theorem sketch_spelledOutParameter (hsketch : definition.relabel sketch = sketch) :
    (definition.spelledOutParameter sketch).sketch =
      { sketch with
        required := ((definition.configuration? sketch.id).getD {}).required.getD
          sketch.required } := by
  cases hdraft : definition.configuration? sketch.id with
  | none =>
    simp only [ManualParameter.sketch, spelledOutParameter, spelledOutDraft, hdraft,
      ParameterDraft.filled, Option.getD_none, Option.getD_some, Option.none_or]
  | some draft =>
    obtain ⟨hname, hdescription⟩ := names_of_relabel hsketch hdraft
    simp only [ManualParameter.sketch, spelledOutParameter, spelledOutDraft, hdraft,
      ParameterDraft.filled, Option.getD_some, hname, hdescription]

/-- A parameter that is declared by hand comes out as it does when it is generated. -/
theorem build_spelledOutParameter (hsketch : definition.relabel sketch = sketch) :
    (definition.spelledOutParameter sketch).sketch.build scope
        (some (definition.spelledOutParameter sketch).draft) =
      sketch.build scope (definition.configuration? sketch.id) := by
  have hsettings : (definition.spelledOutParameter sketch).sketch.validation scope
      (some (definition.spelledOutParameter sketch).draft) =
        sketch.validation scope (definition.configuration? sketch.id) := by
    rw [ParameterSketch.validation_eq_configure, ParameterSketch.validation_eq_configure,
      sketch_spelledOutParameter hsketch]
    exact ParameterDraft.configure_filled
  rw [ParameterSketch.build_eq_map, ParameterSketch.build_eq_map, hsettings,
    sketch_spelledOutParameter hsketch]

/-! ### The rule -/

/-- Structural parameters are in scope under the types that they were given, if all parameters have
ids of their own. -/
theorem type?_of_structural (hids : (sketches.map (·.id)).Nodup)
    (h : definition.synthesize target = .ok sketches)
    (hsketch : sketch ∈ structuralParameters definition.kind target) :
    (ParameterSketch.scope sketches).type? sketch.id = some sketch.type := by
  have hdistinct : ((ParameterSketch.scope sketches).declarations.map (·.1)).Nodup := by
    rw [ParameterSketch.scope, List.map_map]
    exact hids
  refine Scope.type?_eq_some hdistinct (List.mem_map.mpr ⟨definition.relabel sketch, ?_, ?_⟩)
  · obtain ⟨-, ofProperties, -, added, -, rfl⟩ := synthesize_eq_ok_iff.mp h
    exact List.mem_map_of_mem (List.mem_append_left _ (List.mem_append_left _ hsketch))
  · rw [relabel_id, relabel_type]

/-- The check of rules that are written by hand accepts the rule of a generated action. -/
theorem check_of_rule {rule : Rule}
    (hobject : ∀ id object, definition.target = .object id → registry.objectType? id = some object →
      object.propertyNames.Nodup)
    (htarget : ActionTarget.resolve registry definition.target = .ok target)
    (hsketches : definition.synthesize target = .ok sketches)
    (hids : (sketches.map (·.id)).Nodup)
    (hrule : definition.rule registry (ParameterSketch.scope sketches) target = .ok rule) :
    rule.check registry (ParameterSketch.scope sketches) = .ok () :=
  Rule.check_eq_ok_iff.mpr ((emits_of_rule hrule).fits
    (ActionTarget.registered_of_resolve hobject htarget)
    fun _ hsketch ↦ type?_of_structural hids hsketches hsketch)

/-! ### The whole definition -/

/-- A generated action, given what it compiles to, as one that is spelled out. -/
def spelledOut (definition : CrudDefinition) (sketches : List ParameterSketch)
    (compiled : CompiledAction) : ManualDefinition where
  toActionFrame :=
    { definition.toActionFrame with
      metadata :=
        { definition.metadata with
          displayName := some compiled.actionType.display.displayName } }
  id := definition.id
  parameters := sketches.map definition.spelledOutParameter
  rules := compiled.actionType.logic

variable {compiled : CompiledAction} {parameters : List Parameter}

/-- The parameters are in scope under the same types as before. -/
theorem scope_spelledOut :
    ParameterSketch.scope ((sketches.map definition.spelledOutParameter).map (·.sketch)) =
      ParameterSketch.scope sketches := by
  rw [ParameterSketch.scope, ParameterSketch.scope, List.map_map, List.map_map]
  rfl

/-- All parameters come out as they do when they are generated. -/
theorem build_spelledOut (hsketches : definition.synthesize target = .ok sketches)
    (hparameters : sketches.mapM (fun sketch ↦
      sketch.build scope (definition.configuration? sketch.id)) = .ok parameters) :
    (sketches.map definition.spelledOutParameter).mapM (fun parameter ↦
      parameter.sketch.build scope (some parameter.draft)) = .ok parameters := by
  rw [List.mapM_map, ← hparameters]
  exact mapM_congr fun sketch hsketch ↦
    build_spelledOutParameter (relabel_of_synthesize hsketches hsketch)

/-- What is spelled out elaborates to the parameters and the rules that it was made from. -/
theorem elaborate_spelledOut (hsketches : definition.synthesize target = .ok sketches)
    (hids : (sketches.map (·.id)).Nodup)
    (hparameters : sketches.mapM (fun sketch ↦
      sketch.build (ParameterSketch.scope sketches) (definition.configuration? sketch.id)) =
        .ok parameters)
    (hrules : ∀ rule ∈ compiled.actionType.logic,
      rule.check registry (ParameterSketch.scope sketches) = .ok ()) :
    (definition.spelledOut sketches compiled).elaborate registry =
      .ok ⟨(sketches.map definition.spelledOutParameter).map (·.sketch), parameters,
        compiled.actionType.logic, definition.id.localName⟩ := by
  have hdistinct : checkDistinct []
      ((sketches.map definition.spelledOutParameter).map (·.id)) = .ok () := by
    rw [checkDistinct_eq_ok_iff, List.map_map]
    exact ⟨hids, fun _ _ ↦ List.not_mem_nil⟩
  simp only [ManualDefinition.elaborate, spelledOut, scope_spelledOut, bind_eq_ok_iff,
    pure_eq_ok_iff]
  exact ⟨(), hdistinct, (), forM_eq_ok_iff.mpr hrules, parameters,
    build_spelledOut hsketches hparameters, rfl⟩

/-- A generated action whose parameters have ids of their own compiles to the same action when it is
spelled out, and its rules pass the check of rules that are written by hand. -/
theorem compile_spelledOut (h : definition.compile registry = .ok compiled) :
    ∃ target sketches, ActionTarget.resolve registry definition.target = .ok target ∧
      definition.synthesize target = .ok sketches ∧
      ((sketches.map (·.id)).Nodup →
        (∀ id object, definition.target = .object id → registry.objectType? id = some object →
          object.propertyNames.Nodup) →
        (definition.spelledOut sketches compiled).compile registry = .ok compiled ∧
          ∀ rule ∈ compiled.actionType.logic,
            rule.check registry (ParameterSketch.scope sketches) = .ok ()) := by
  obtain ⟨elaboration, helaborate, ordering, hordering, hassemble⟩ :=
    (ActionDefinition.generated definition).compile_eq_ok_iff.mp h
  simp only [ActionDefinition.elaborate, elaborate, bind_eq_ok_iff, pure_eq_ok_iff] at helaborate
  obtain ⟨target, htarget, sketches, hsketches, parameters, hparameters, rule, hrule, rfl⟩ :=
    helaborate
  refine ⟨target, sketches, htarget, hsketches, fun hids hobject ↦ ?_⟩
  obtain ⟨layout, hlayout, submission, hsubmission, rfl⟩ :=
    ActionFrame.assemble_eq_ok_iff.mp hassemble
  have hrules : ∀ other ∈ [rule],
      other.check registry (ParameterSketch.scope sketches) = .ok () := by
    intro other hother
    rw [List.mem_singleton.mp hother]
    exact check_of_rule hobject htarget hsketches hids hrule
  refine ⟨?_, hrules⟩
  -- Both ways assemble over one scope, so sections and conditions compile as they did.
  refine (ActionDefinition.manual _).compile_eq_ok_iff.mpr
    ⟨_, elaborate_spelledOut hsketches hids hparameters hrules, ordering, ?_, ?_⟩
  · rw [Elaboration.ids, List.map_map, List.map_map]
    exact hordering
  · refine ActionFrame.assemble_eq_ok_iff.mpr ⟨layout, ?_, submission, ?_, rfl⟩
    · rw [Elaboration.scope, scope_spelledOut]
      exact hlayout
    · rw [Elaboration.scope, scope_spelledOut]
      exact hsubmission

theorem compile_spelledOut_editTicket :
    ∃ sketches compiled, Fixture.editTicket.compile (Fixture.registry Fixture.ticket) =
        .ok compiled ∧
      (Fixture.editTicket.spelledOut sketches compiled).compile (Fixture.registry Fixture.ticket) =
        .ok compiled := by
  obtain ⟨compiled, hcompile, -⟩ := Fixture.editTicket_compile
  obtain ⟨target, sketches, htarget, hsketches, hsame⟩ := compile_spelledOut hcompile
  have hbuilt := Fixture.registry_built Fixture.ticket
  have hcomputed : (ActionTarget.resolve (Fixture.registry Fixture.ticket)
      Fixture.editTicket.target >>= Fixture.editTicket.synthesize).toOption.map
        (fun sketches ↦ sketches.map (·.id)) =
          some ["objectToModifyParameter", "title", "priority", "estimate", "tags", "reason"] := by
    decide +kernel
  obtain ⟨found, hfound, hids⟩ := exists_of_toOption_map hcomputed
  rw [htarget] at hfound
  cases hsketches.symm.trans hfound
  have hdistinct : (sketches.map (·.id)).Nodup := by
    rw [hids]
    decide
  exact ⟨sketches, compiled, hcompile,
    (hsame hdistinct fun _ _ _ hobject ↦ hbuilt.propertyNames_nodup hobject).1⟩

end CrudDefinition

end Ontology
