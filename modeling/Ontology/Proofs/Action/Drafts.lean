import Ontology.Proofs.Action.Settings
import Ontology.Proofs.Action.StaticValues
import Ontology.Proofs.Action.Synthesis

/-!
What becomes of the settings that an author gives. `ActionDefinition.drafts` lists them by parameter
id, for actions of either kind. No draft is lost: in an action that compiles each belongs to a
parameter of its id (`draft_of_mem_drafts`), and every parameter is configured from the draft of its
id over the settings that follow from its type (`exists_configure_of_compile`). The conditional
effects of a parameter are those of its draft, with requirements in the form that goes with the type
(`ParameterDraft.effects_of_configure`).
-/

set_option autoImplicit false
set_option relaxedAutoImplicit false

namespace Ontology

open Outcome

variable {registry : Registry} {scope : Scope} {id : String} {type : ParameterType}

/-! ### Conditional effects -/

/-- The form of a requirement in the settings of a type: a list has bounds in place of a flag. -/
def Requirement.settled (type : ParameterType) : Requirement → Requirement
  | .flag required => type.requirement required none none
  | .listLength min max => .listLength min max

/-- The form of an effect in the settings of a type. -/
def Effect.settled (type : ParameterType) : Effect → Effect
  | .requirement demanded => .requirement (demanded.settled type)
  | effect => effect

theorem Effect.eq_settled_of_normalize {effect normal : Effect}
    (h : effect.normalize id type = .ok normal) : normal = effect.settled type := by
  cases effect with
  | visibility =>
    cases h
    rfl
  | prefilled | allowedValues =>
    simp only [normalize, bind_eq_ok_iff, pure_eq_ok_iff] at h
    obtain ⟨_, -, rfl⟩ := h
    rfl
  | requirement demanded =>
    cases demanded with
    | listLength min max =>
      simp only [normalize, bind_eq_ok_iff, pure_eq_ok_iff] at h
      obtain ⟨_, -, rfl⟩ := h
      rfl
    | flag required =>
      cases hlist : type.isList with
      | true =>
        simp only [normalize, hlist] at h
        cases h
        rfl
      | false =>
        simp only [normalize, hlist, bind_eq_ok_iff, pure_eq_ok_iff] at h
        obtain ⟨_, -, rfl⟩ := h
        simp [settled, Requirement.settled, ParameterType.requirement, hlist]

theorem EffectsDraft.effects_of_compile {draft : EffectsDraft} {change : ConditionalEffects}
    (h : draft.compile scope id type = .ok change) :
    change.effects = draft.effects.map (·.settled type) := by
  simp only [compile, bind_eq_ok_iff, pure_eq_ok_iff] at h
  obtain ⟨_, -, normals, hnormals, rfl⟩ := h
  have hsettled : normals.map (fun effect ↦ effect) = draft.effects.map (·.settled type) :=
    map_eq_of_mapM hnormals fun _ _ ↦ Effect.eq_settled_of_normalize
  rwa [List.map_id'] at hsettled

namespace ParameterDraft

variable {draft : ParameterDraft} {base : ValidationBlock} {validation : ParameterValidation}

/-- The effects that an author gives, under whatever condition. -/
def effects (draft : ParameterDraft) : List Effect := draft.overrides.flatMap (·.effects)

theorem configure_eq_ok_iff :
    draft.configure scope id type base = .ok validation ↔
      draft.configureBlock id type base = .ok validation.default ∧
        draft.overrides.mapM (·.compile scope id type) = .ok validation.overrides := by
  simp only [configure, bind_eq_ok_iff, pure_eq_ok_iff]
  constructor
  · rintro ⟨block, hblock, overrides, hoverrides, rfl⟩
    exact ⟨hblock, hoverrides⟩
  · rintro ⟨hblock, hoverrides⟩
    exact ⟨_, hblock, _, hoverrides, rfl⟩

theorem configureBlock_eq_ok_iff {block : ValidationBlock} :
    draft.configureBlock id type base = .ok block ↔
      draft.renderHint.getD base.renderHint = block.renderHint ∧
      draft.visibility.getD base.visibility = block.visibility ∧
      draft.configuredValues id type base.allowedValues = .ok block.allowedValues ∧
      draft.configuredRequirement id type base.requirement = .ok block.requirement ∧
      draft.configuredPrefill id type base.prefilled = .ok block.prefilled := by
  simp only [configureBlock, bind_eq_ok_iff, pure_eq_ok_iff]
  constructor
  · rintro ⟨values, hvalues, requirement, hrequirement, prefilled, hprefilled, rfl⟩
    exact ⟨rfl, rfl, hvalues, hrequirement, hprefilled⟩
  · rintro ⟨hhint, hvisibility, hvalues, hrequirement, hprefilled⟩
    refine ⟨_, hvalues, _, hrequirement, _, hprefilled, ?_⟩
    rw [hhint, hvisibility]

/-- The effects on a parameter are those of its author, in the form that goes with the type. -/
theorem effects_of_configure (h : draft.configure scope id type base = .ok validation) :
    validation.effects = draft.effects.map (·.settled type) := by
  have hoverrides := (configure_eq_ok_iff.mp h).2
  have hsettled : validation.overrides.map (·.effects) =
      draft.overrides.map fun change ↦ change.effects.map (·.settled type) :=
    map_eq_of_mapM hoverrides fun _ _ ↦ EffectsDraft.effects_of_compile
  rw [ParameterValidation.effects, effects, List.flatMap_def, hsettled, List.map_flatMap,
    List.flatMap_def]

/-- Every effect on a parameter has come through the checks on one that its author gives. -/
theorem exists_normalize_of_configure (h : draft.configure scope id type base = .ok validation)
    {effect : Effect} (heffect : effect ∈ validation.effects) :
    ∃ given ∈ draft.effects, given.normalize id type = .ok effect := by
  obtain ⟨change, hchange, heffect⟩ := List.mem_flatMap.mp heffect
  obtain ⟨given, hgiven, hcompile⟩ := exists_of_mem_mapM (configure_eq_ok_iff.mp h).2 hchange
  simp only [EffectsDraft.compile, bind_eq_ok_iff, pure_eq_ok_iff] at hcompile
  obtain ⟨_, -, normals, hnormals, rfl⟩ := hcompile
  obtain ⟨source, hsource, hnormalize⟩ := exists_of_mem_mapM hnormals heffect
  exact ⟨source, List.mem_flatMap.mpr ⟨given, hgiven, hsource⟩, hnormalize⟩

end ParameterDraft

/-! ### Configured parameters -/

namespace CrudDefinition

variable {definition : CrudDefinition} {target : ActionTarget} {sketches : List ParameterSketch}

/-- A configuration has distinct keys, all of them ids of parameters. -/
theorem configuration_of_synthesize (h : definition.synthesize target = .ok sketches) :
    (definition.configuration.map (·.1)).Nodup ∧
      ∀ id ∈ definition.configuration.map (·.1), id ∈ sketches.map (·.id) := by
  obtain ⟨-, ofProperties, -, added, hadded, -⟩ := synthesize_eq_ok_iff.mp h
  refine ⟨(addedParameters_eq_ok_iff.mp hadded).1.1, fun id hid ↦ ?_⟩
  exact (mem_ids_of_synthesize h).mpr (.inr (.inr hid))

end CrudDefinition

namespace ActionDefinition

variable {definition : ActionDefinition} {elaboration : Elaboration} {compiled : CompiledAction}

/-- What the author settles about parameters, by id. -/
def drafts : ActionDefinition → List (String × ParameterDraft)
  | .generated definition => definition.configuration
  | .manual definition => definition.parameters.map fun parameter ↦ (parameter.id, parameter.draft)

/-- What the author settles about the parameter of an id. -/
def draft (definition : ActionDefinition) (id : String) : ParameterDraft :=
  ((definition.drafts.find? (·.1 = id)).map (·.2)).getD {}

/-- The parameters of an action that is spelled out are those that its author drafts. -/
theorem ids_of_manual {definition : ManualDefinition}
    (h : (manual definition).elaborate registry = .ok elaboration) :
    elaboration.ids = (manual definition).drafts.map (·.1) := by
  rw [drafts, Elaboration.ids, (ManualDefinition.elaborate_eq_ok_iff.mp h).1, List.map_map,
    List.map_map]
  rfl

/-- The drafts of an elaborated action belong to different parameters. -/
theorem drafts_of_elaborate (h : definition.elaborate registry = .ok elaboration) :
    (definition.drafts.map (·.1)).Nodup ∧
      ∀ id ∈ definition.drafts.map (·.1), id ∈ elaboration.ids := by
  cases definition with
  | generated definition =>
    obtain ⟨target, -, hsketches, -⟩ := CrudDefinition.elaborate_eq_ok_iff.mp h
    exact CrudDefinition.configuration_of_synthesize hsketches
  | manual definition =>
    obtain ⟨-, hdistinct, -⟩ := ManualDefinition.elaborate_eq_ok_iff.mp h
    rw [← ids_of_manual h]
    exact ⟨hdistinct, fun id hid ↦ hid⟩

/-- Each draft is the one of its id. -/
theorem draft_of_mem (hdistinct : (definition.drafts.map (·.1)).Nodup)
    {entry : String × ParameterDraft} (hentry : entry ∈ definition.drafts) :
    definition.draft entry.1 = entry.2 := by
  have hfound : definition.drafts.find? (·.1 = entry.1) = some entry :=
    Lookup.find?_eq_some hdistinct hentry
  rw [draft, hfound, Option.map_some, Option.getD_some]

/-- A parameter has the draft of an entry or an empty one. -/
theorem draft_eq_empty_or (definition : ActionDefinition) (id : String) :
    definition.draft id = {} ∨
      ∃ entry ∈ definition.drafts, entry.1 = id ∧ entry.2 = definition.draft id := by
  unfold draft
  cases hfound : definition.drafts.find? (·.1 = id) with
  | none => exact .inl rfl
  | some entry =>
    have hid : entry.1 = id := by simpa using List.find?_some hfound
    exact .inr ⟨entry, List.mem_of_find?_eq_some hfound, hid, rfl⟩

/-- Every parameter of an elaboration keeps the id and the type of its sketch and is configured from
the draft of its id. -/
theorem configure_of_elaborate (h : definition.elaborate registry = .ok elaboration) :
    List.Forall₂ (fun sketch parameter ↦ parameter.id = sketch.id ∧ parameter.type = sketch.type ∧
      (definition.draft sketch.id).configure elaboration.scope sketch.id sketch.type sketch.base =
        .ok parameter.validation) elaboration.sketches elaboration.parameters := by
  have hdrafts := (drafts_of_elaborate h).1
  have hconfigure {sketch : ParameterSketch} {parameter : Parameter}
      {draft : Option ParameterDraft}
      (hbuild : sketch.build elaboration.scope draft = .ok parameter)
      (hdraft : draft.getD {} = definition.draft sketch.id) :
      parameter.id = sketch.id ∧ parameter.type = sketch.type ∧
        (definition.draft sketch.id).configure elaboration.scope sketch.id sketch.type sketch.base =
          .ok parameter.validation := by
    obtain ⟨validation, hvalidation, rfl⟩ := ParameterSketch.build_eq_ok_iff.mp hbuild
    rw [ParameterSketch.validation_eq_configure, hdraft] at hvalidation
    exact ⟨rfl, rfl, hvalidation⟩
  cases definition with
  | generated definition =>
    obtain ⟨target, -, -, hparameters, -⟩ := CrudDefinition.elaborate_eq_ok_iff.mp h
    exact (mapM_eq_ok_iff.mp hparameters).imp fun _ _ hbuild ↦ hconfigure hbuild rfl
  | manual definition =>
    obtain ⟨hsketches, -, -, hparameters, -⟩ := ManualDefinition.elaborate_eq_ok_iff.mp h
    have hbuild (parameter : ManualParameter) (hmem : parameter ∈ definition.parameters) :
        parameter.sketch.build elaboration.scope (some parameter.draft) =
          parameter.sketch.build elaboration.scope
            (some ((manual definition).draft parameter.id)) := by
      rw [draft_of_mem hdrafts (List.mem_map_of_mem hmem)]
    rw [mapM_congr hbuild] at hparameters
    rw [hsketches, List.forall₂_map_left_iff]
    refine (mapM_eq_ok_iff.mp hparameters).imp fun parameter built hbuilt ↦ ?_
    exact hconfigure hbuilt rfl

/-- The scope of an elaboration lists its parameters with their types. -/
theorem scope_of_elaborate (h : definition.elaborate registry = .ok elaboration) :
    elaboration.scope =
      ⟨elaboration.parameters.map fun parameter ↦ (parameter.id, parameter.type)⟩ := by
  rw [Elaboration.scope, ParameterSketch.scope, Scope.mk.injEq, ← List.forall₂_eq_eq_eq,
    List.forall₂_map_left_iff, List.forall₂_map_right_iff]
  refine (configure_of_elaborate h).imp fun sketch parameter hparameter ↦ ?_
  rw [hparameter.1, hparameter.2.1]

/-- The rules of a compiled action have been elaborated in the scope that its parameters make up. -/
theorem exists_scope_of_compile (h : definition.compile registry = .ok compiled) :
    ∃ elaboration, definition.elaborate registry = .ok elaboration ∧
      compiled.actionType.logic = elaboration.rules ∧
      compiled.actionType.parameterScope = elaboration.scope := by
  obtain ⟨elaboration, helaborate, hlogic, hparameters⟩ := exists_elaboration_of_compile h
  refine ⟨elaboration, helaborate, hlogic, ?_⟩
  rw [ActionType.parameterScope, hparameters, scope_of_elaborate helaborate]

/-- Every parameter of a compiled action is configured from the draft of its id, over the settings
that follow from its type. -/
theorem exists_configure_of_compile (h : definition.compile registry = .ok compiled)
    {parameter : Parameter} (hparameter : parameter ∈ compiled.actionType.parameters) :
    ∃ scope required, (definition.draft parameter.id).configure scope parameter.id parameter.type
      (parameter.type.defaultBlock required) = .ok parameter.validation := by
  obtain ⟨elaboration, helaborate, -, hparameters⟩ := exists_elaboration_of_compile h
  rw [hparameters] at hparameter
  obtain ⟨sketch, -, hid, htype, hconfigure⟩ :=
    exists_of_mem_forall₂ (configure_of_elaborate helaborate) hparameter
  rw [hid, htype]
  exact ⟨elaboration.scope, sketch.required, hconfigure⟩

/-- Every draft of a compiled action is that of one of its parameters. -/
theorem draft_of_mem_drafts (h : definition.compile registry = .ok compiled)
    {entry : String × ParameterDraft} (hentry : entry ∈ definition.drafts) :
    definition.draft entry.1 = entry.2 ∧
      ∃ parameter ∈ compiled.actionType.parameters, parameter.id = entry.1 := by
  obtain ⟨elaboration, helaborate, -, hparameters⟩ := exists_elaboration_of_compile h
  obtain ⟨hdistinct, hids⟩ := drafts_of_elaborate helaborate
  refine ⟨draft_of_mem hdistinct hentry, List.mem_map.mp ?_⟩
  rw [hparameters, parameters_ids helaborate]
  exact hids entry.1 (List.mem_map_of_mem hentry)

/-- What holds of a parameter about which nothing is settled holds of all parameters with their
drafts exactly when it holds of those that an entry is for. -/
theorem forall_draft_iff (h : definition.compile registry = .ok compiled)
    {p : Parameter → ParameterDraft → Prop} (hempty : ∀ parameter, p parameter {}) :
    (∀ parameter ∈ compiled.actionType.parameters, p parameter (definition.draft parameter.id)) ↔
      ∀ entry ∈ definition.drafts, ∀ parameter ∈ compiled.actionType.parameters,
        parameter.id = entry.1 → p parameter entry.2 := by
  constructor
  · intro hall entry hentry parameter hparameter hid
    rw [← (draft_of_mem_drafts h hentry).1, ← hid]
    exact hall parameter hparameter
  · intro hall parameter hparameter
    rcases definition.draft_eq_empty_or parameter.id with hdraft | ⟨entry, hentry, hid, hdraft⟩
    · rw [hdraft]
      exact hempty parameter
    · rw [← hdraft]
      exact hall entry hentry parameter hparameter hid.symm

end ActionDefinition

end Ontology
