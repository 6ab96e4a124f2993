import Ontology.Proofs.Outcome
import Ontology.Action.Synthesis
import Mathlib.Data.List.Nodup

/-!
The parameters of a generated action, group by group: the structural ones, those of the properties
that take a parameter, and the added ones. `synthesize_ids` gives their ids. Added parameters keep
out of each other's way and out of that of the others by construction, so all ids are distinct
exactly when those of the first two groups are (`synthesize_ids_nodup_iff`).
-/

set_option autoImplicit false
set_option relaxedAutoImplicit false

namespace Ontology

open Outcome

theorem structuralParameters_nodup (kind : CrudKind) (target : ActionTarget) :
    ((structuralParameters kind target).map (·.id)).Nodup := by
  unfold structuralParameters
  split_ifs <;> cases kind <;> simp [TargetRole.sketch, TargetRole.parameterId]

namespace CrudDefinition

variable {definition : CrudDefinition} {target : ActionTarget} {sketches : List ParameterSketch}

/-! ### The three groups -/

/-- The properties of the target that are filled in through a parameter. -/
def parameterProperties (definition : CrudDefinition) (target : ActionTarget) :
    List TargetProperty :=
  target.properties.filter (definition.takesParameter target)

/-- A synthesis succeeds when the keys pass and the parameters of properties and the added ones
do. -/
theorem synthesize_eq_ok_iff :
    definition.synthesize target = .ok sketches ↔
      (∀ key ∈ definition.excluded ++ definition.fixedValues.map (·.1),
        definition.checkPropertyKey target key = .ok ()) ∧
      ∃ ofProperties,
        (definition.parameterProperties target).mapM definition.propertyParameter =
          .ok ofProperties ∧
        ∃ added,
          addedParameters target
              ((structuralParameters definition.kind target ++ ofProperties).map (·.id)) []
              definition.configuration = .ok added ∧
            (structuralParameters definition.kind target ++ ofProperties ++ added).map
              definition.relabel = sketches := by
  simp only [synthesize, parameterProperties, bind_eq_ok_iff, pure_eq_ok_iff, exists_and_right,
    exists_unit_eq_ok_iff, forM_eq_ok_iff]

@[simp] theorem relabel_id (parameter : ParameterSketch) :
    (definition.relabel parameter).id = parameter.id := by
  unfold relabel
  split <;> rfl

@[simp] theorem relabel_type (parameter : ParameterSketch) :
    (definition.relabel parameter).type = parameter.type := by
  unfold relabel
  split <;> rfl

theorem propertyParameter_id {property : TargetProperty} {sketch : ParameterSketch}
    (h : definition.propertyParameter property = .ok sketch) :
    sketch.id = property.parameterId := by
  simp only [propertyParameter, bind_eq_ok_iff, pure_eq_ok_iff] at h
  obtain ⟨type, -, rfl⟩ := h
  rfl

theorem addedParameter_id {id : String} {draft : ParameterDraft} {sketch : ParameterSketch}
    (h : addedParameter target id draft = .ok sketch) : sketch.id = id := by
  unfold addedParameter at h
  split at h
  · cases h
    rfl
  · split_ifs at h

/-- A configuration passes when its keys are distinct and new and, where they belong to no existing
parameter, all add one. -/
theorem addedParameters_eq_ok_iff {existing earlier : List String}
    {configuration : List (String × ParameterDraft)} {added : List ParameterSketch} :
    addedParameters target existing earlier configuration = .ok added ↔
      ((configuration.map (·.1)).Nodup ∧ ∀ id ∈ configuration.map (·.1), id ∉ earlier) ∧
        (configuration.filter (·.1 ∉ existing)).mapM
          (fun entry ↦ addedParameter target entry.1 entry.2) = .ok added := by
  induction configuration generalizing earlier added with
  | nil => simp [addedParameters]
  | cons entry rest ih =>
    obtain ⟨id, draft⟩ := entry
    -- The keys of the rest are distinct from this one as from those before it.
    have hkeys : ((rest.map (·.1)).Nodup ∧ ∀ other ∈ rest.map (·.1), other ∉ id :: earlier) ↔
        (id :: rest.map (·.1)).Nodup ∧ ∀ other ∈ rest.map (·.1), other ∉ earlier := by
      rw [List.nodup_cons]
      grind
    rw [addedParameters, List.map_cons, List.forall_mem_cons]
    by_cases hearlier : id ∈ earlier
    · simp [hearlier]
    · by_cases hexisting : id ∈ existing
      · rw [if_neg hearlier, if_pos hexisting, ih, hkeys, List.filter_cons_of_neg (by simpa)]
        tauto
      · rw [List.filter_cons_of_pos (by simpa), List.mapM_cons]
        simp only [if_neg hearlier, if_neg hexisting, bind_eq_ok_iff, pure_eq_ok_iff, ih, hkeys]
        tauto

/-- Added parameters have distinct ids, none of them that of an existing parameter. -/
theorem addedParameters_nodup {existing earlier : List String}
    {configuration : List (String × ParameterDraft)} {added : List ParameterSketch}
    (h : addedParameters target existing earlier configuration = .ok added) :
    (added.map (·.id)).Nodup ∧ ∀ id ∈ added.map (·.id), id ∉ existing ∧ id ∉ earlier := by
  obtain ⟨⟨hdistinct, hnew⟩, hadded⟩ := addedParameters_eq_ok_iff.mp h
  have hids : added.map (·.id) = (configuration.filter (·.1 ∉ existing)).map (·.1) :=
    map_eq_of_mapM hadded fun _ _ ↦ addedParameter_id
  have hkept : ((configuration.filter (·.1 ∉ existing)).map (·.1)).Sublist
      (configuration.map (·.1)) :=
    List.filter_sublist.map _
  rw [hids]
  refine ⟨hdistinct.sublist hkept, fun id hid ↦ ⟨?_, hnew id (hkept.mem hid)⟩⟩
  obtain ⟨entry, hentry, rfl⟩ := List.mem_map.mp hid
  exact of_decide_eq_true (List.mem_filter.mp hentry).2

/-! ### Their ids -/

/-- The ids of all parameters, with what keeps those of the added ones apart. -/
theorem synthesize_ids (h : definition.synthesize target = .ok sketches) :
    ∃ added : List String,
      sketches.map (·.id) =
        (structuralParameters definition.kind target).map (·.id) ++
          (definition.parameterProperties target).map (·.parameterId) ++ added ∧
      added.Nodup ∧
      ∀ id ∈ added,
        id ∉ (structuralParameters definition.kind target).map (·.id) ++
          (definition.parameterProperties target).map (·.parameterId) := by
  obtain ⟨-, ofProperties, hproperties, added, hadded, rfl⟩ := synthesize_eq_ok_iff.mp h
  have hids : ofProperties.map (·.id) =
      (definition.parameterProperties target).map (·.parameterId) :=
    map_eq_of_mapM hproperties fun _ _ ↦ propertyParameter_id
  obtain ⟨hnodup, hnew⟩ := addedParameters_nodup hadded
  refine ⟨added.map (·.id), ?_, hnodup, fun id hid ↦ ?_⟩
  · rw [List.map_map, ← hids, ← List.map_append, ← List.map_append]
    exact List.map_congr_left fun parameter _ ↦ relabel_id parameter
  · rw [← hids, ← List.map_append]
    exact (hnew id hid).1

/-- An id of a parameter is that of a structural one or of a property that takes one, or a key of
the configuration. -/
theorem mem_ids_of_synthesize (h : definition.synthesize target = .ok sketches) {id : String} :
    id ∈ sketches.map (·.id) ↔
      id ∈ (structuralParameters definition.kind target).map (·.id) ∨
        id ∈ (definition.parameterProperties target).map (·.parameterId) ∨
          id ∈ definition.configuration.map (·.1) := by
  obtain ⟨-, ofProperties, hproperties, added, hadded, rfl⟩ := synthesize_eq_ok_iff.mp h
  have hofProperties : ofProperties.map (·.id) =
      (definition.parameterProperties target).map (·.parameterId) :=
    map_eq_of_mapM hproperties fun _ _ ↦ propertyParameter_id
  have hadds : added.map (·.id) = (definition.configuration.filter fun entry ↦ entry.1 ∉
      (structuralParameters definition.kind target ++ ofProperties).map (·.id)).map (·.1) :=
    map_eq_of_mapM (addedParameters_eq_ok_iff.mp hadded).2 fun _ _ ↦ addedParameter_id
  have hlabels : (·.id) ∘ definition.relabel = fun sketch : ParameterSketch ↦ sketch.id :=
    funext relabel_id
  rw [List.map_map, hlabels, List.map_append, List.map_append, List.mem_append, List.mem_append,
    ← hofProperties, hadds]
  -- A key of the configuration that adds no parameter is the id of one that is there.
  have hkeys : id ∈ (definition.configuration.filter fun entry ↦ entry.1 ∉
        (structuralParameters definition.kind target ++ ofProperties).map (·.id)).map (·.1) ↔
      id ∈ definition.configuration.map (·.1) ∧
        ¬ (id ∈ (structuralParameters definition.kind target).map (·.id) ∨
          id ∈ ofProperties.map (·.id)) := by
    simp only [List.map_append, List.mem_append, List.mem_map, List.mem_filter,
      decide_eq_true_eq]
    constructor
    · rintro ⟨entry, ⟨hentry, hnew⟩, rfl⟩
      exact ⟨⟨entry, hentry, rfl⟩, hnew⟩
    · rintro ⟨⟨entry, hentry, rfl⟩, hnew⟩
      exact ⟨entry, ⟨hentry, hnew⟩, rfl⟩
  rw [hkeys]
  tauto

/-- Where the properties of a target have parameter ids of their own, all parameters have distinct
ids exactly when no property takes a parameter under the id of a structural one. -/
theorem synthesize_ids_nodup_iff (hproperties : (target.properties.map (·.parameterId)).Nodup)
    (h : definition.synthesize target = .ok sketches) :
    (sketches.map (·.id)).Nodup ↔
      ∀ property ∈ target.properties, definition.takesParameter target property →
        property.parameterId ∉ (structuralParameters definition.kind target).map (·.id) := by
  obtain ⟨added, hids, hadded, hnew⟩ := synthesize_ids h
  have hstructural := structuralParameters_nodup definition.kind target
  have hkept : ((definition.parameterProperties target).map (·.parameterId)).Nodup :=
    hproperties.sublist (List.filter_sublist.map _)
  rw [hids, List.nodup_append, List.nodup_append]
  constructor
  · rintro ⟨⟨-, -, hdisjoint⟩, -, -⟩ property hproperty htakes hclash
    have hmem : property.parameterId ∈
        (definition.parameterProperties target).map (·.parameterId) :=
      List.mem_map_of_mem (List.mem_filter.mpr ⟨hproperty, htakes⟩)
    exact hdisjoint _ hclash _ hmem rfl
  · intro hfree
    refine ⟨⟨hstructural, hkept, ?_⟩, hadded, ?_⟩
    · rintro id hid _ hother rfl
      obtain ⟨property, hproperty, rfl⟩ := List.mem_map.mp hother
      obtain ⟨hproperty, htakes⟩ := List.mem_filter.mp hproperty
      exact hfree property hproperty htakes hid
    · rintro id hid _ hother rfl
      exact hnew id hother hid

end CrudDefinition

end Ontology
