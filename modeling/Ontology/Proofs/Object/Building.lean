import Ontology.Proofs.Outcome
import Ontology.Definition.Object

/-!
How object types are built. `ObjectDraft.build_eq_ok_iff` lists what is settled and checked on the
way, `ObjectPropertyDraft.buildAll_eq_ok_iff` does so for the properties, and
`Implementation.resolve_eq_ok_iff` for one interface that is implemented.
Completing its mappings takes one of three steps at each effective property
(`completeMapping_eq_ok_iff`); along the whole list the mappings that are there stay in front, and
every required property gets one (`mapsProperty_of_complete`).
-/

set_option autoImplicit false
set_option relaxedAutoImplicit false

namespace Ontology

open Outcome

variable {policy : NamingPolicy} {registry : Registry}

/-! ### Properties -/

namespace ObjectPropertyDraft

variable {object : Identifier}

theorem build_apiName {draft : ObjectPropertyDraft} {property : ObjectProperty}
    (h : draft.build policy registry object = .ok property) : property.apiName = draft.apiName := by
  cases draft with
  | declared declared => cases h; rfl
  | shared apiName name =>
    rw [build] at h
    split at h <;> cases h
    rfl

/-- Properties are built together when their api names are distinct and new and each of them is
built. -/
theorem buildAll_eq_ok_iff {earlier : List String} {drafts : List ObjectPropertyDraft}
    {properties : List ObjectProperty} :
    buildAll policy registry object earlier drafts = .ok properties ↔
      ((drafts.map (·.apiName)).Nodup ∧ ∀ name ∈ drafts.map (·.apiName), name ∉ earlier) ∧
        drafts.mapM (·.build policy registry object) = .ok properties := by
  induction drafts generalizing earlier properties with
  | nil => simp [buildAll]
  | cons draft rest ih =>
    -- The names of the rest are distinct from this one as from those before it.
    have hnames : ((rest.map (·.apiName)).Nodup ∧
          ∀ other ∈ rest.map (·.apiName), other ∉ draft.apiName :: earlier) ↔
        (draft.apiName :: rest.map (·.apiName)).Nodup ∧
          ∀ other ∈ rest.map (·.apiName), other ∉ earlier := by
      rw [List.nodup_cons]
      grind
    rw [buildAll, List.map_cons, List.forall_mem_cons, List.mapM_cons]
    by_cases hearlier : draft.apiName ∈ earlier
    · simp [hearlier]
    · simp only [if_neg hearlier, bind_eq_ok_iff, pure_eq_ok_iff, ih, hnames]
      tauto

/-- Properties that are built together have the api names that are written down. -/
theorem apiNames_of_buildAll {earlier : List String} {drafts : List ObjectPropertyDraft}
    {properties : List ObjectProperty}
    (h : buildAll policy registry object earlier drafts = .ok properties) :
    properties.map (·.apiName) = drafts.map (·.apiName) :=
  map_eq_of_mapM (buildAll_eq_ok_iff.mp h).2 fun _ _ ↦ build_apiName

end ObjectPropertyDraft

/-! ### Implementations -/

namespace Implementation

variable {object interface : Identifier} {properties : List ObjectProperty}
  {mappings next completed : List PropertyMapping} {property : EffectiveProperty}
  {effective : List EffectiveProperty} {implementation : Implementation}

/-- Some mapping stands for an interface property. -/
def MapsProperty (mappings : List PropertyMapping) (id : Identifier) : Prop :=
  ∃ mapping ∈ mappings, mapping.interfaceProperty = id

theorem MapsProperty.mono {id : Identifier} (h : MapsProperty mappings id)
    (hkept : mappings <+: next) : MapsProperty next id := by
  obtain ⟨mapping, hmapping, hid⟩ := h
  exact ⟨mapping, hkept.subset hmapping, hid⟩

/-- One effective property has a mapping already, or gets one to the property behind which the same
shared property type stands, or is optional and stays without. -/
theorem completeMapping_eq_ok_iff :
    completeMapping object interface properties mappings property = .ok next ↔
      MapsProperty mappings property.id ∧ mappings = next ∨
      ¬ MapsProperty mappings property.id ∧
        ((∃ backing, properties.find? (·.sharedPropertyType = some property.id) = some backing ∧
            mappings ++ [⟨property.id, backing.apiName⟩] = next) ∨
          properties.find? (·.sharedPropertyType = some property.id) = none ∧
            property.required = false ∧ mappings = next) := by
  have hmapped : mappings.any (·.interfaceProperty = property.id) = true ↔
      MapsProperty mappings property.id := by
    simp [MapsProperty]
  unfold completeMapping
  by_cases h : MapsProperty mappings property.id
  · rw [if_pos (hmapped.mpr h)]
    simp [h]
  · rw [if_neg (mt hmapped.mp h)]
    cases hbacking : properties.find? (·.sharedPropertyType = some property.id) with
    | some backing => simp [h]
    | none => cases hrequired : property.required <;> simp [h]

/-- A step keeps the mappings and gives a required property one. -/
theorem prefix_of_completeMapping
    (h : completeMapping object interface properties mappings property = .ok next) :
    mappings <+: next ∧ (property.required → MapsProperty next property.id) := by
  rcases completeMapping_eq_ok_iff.mp h with
    ⟨hmapped, rfl⟩ | ⟨-, ⟨backing, -, rfl⟩ | ⟨-, hoptional, rfl⟩⟩
  · exact ⟨List.prefix_rfl, fun _ ↦ hmapped⟩
  · exact ⟨List.prefix_append _ _, fun _ ↦ ⟨_, List.mem_append_right _ List.mem_cons_self, rfl⟩⟩
  · exact ⟨List.prefix_rfl, fun hrequired ↦ by simp [hoptional] at hrequired⟩

/-- The completed mappings keep those that were written down, and map every required property. -/
theorem mapsProperty_of_complete
    (h : effective.foldlM (completeMapping object interface properties) mappings = .ok completed) :
    mappings <+: completed ∧
      ∀ property ∈ effective, property.required → MapsProperty completed property.id := by
  induction effective generalizing mappings with
  | nil =>
    cases h
    exact ⟨List.prefix_rfl, by simp⟩
  | cons property rest ih =>
    rw [List.foldlM_cons, bind_eq_ok_iff] at h
    obtain ⟨next, hnext, hrest⟩ := h
    obtain ⟨hkept, hmapped⟩ := prefix_of_completeMapping hnext
    obtain ⟨hkeptRest, hmappedRest⟩ := ih hrest
    refine ⟨hkept.trans hkeptRest, List.forall_mem_cons.mpr ⟨fun hrequired ↦ ?_, hmappedRest⟩⟩
    exact (hmapped hrequired).mono hkeptRest

/-- An implementation is accepted when the effective properties of the interface are known, the
mappings that are written down pass, and the others can be found. -/
theorem resolve_eq_ok_iff :
    resolve registry object interface properties mappings = .ok implementation ↔
      ∃ effective, registry.interfaceProperties interface = .ok effective ∧
        (∀ mapping ∈ mappings,
          checkMapping object interface properties effective mapping = .ok ()) ∧
        ∃ completed, effective.foldlM (completeMapping object interface properties) mappings =
            .ok completed ∧
          ⟨interface, completed⟩ = implementation := by
  simp only [resolve, bind_eq_ok_iff, exists_unit_eq_ok_and_iff, forM_eq_ok_iff, pure_eq_ok_iff]

end Implementation

/-! ### Object types -/

namespace ObjectDraft

variable {draft : ObjectDraft} {object : ObjectType}

theorem checkProperty_eq_ok_iff {id : Identifier} {properties : List ObjectProperty}
    {name : String} :
    checkProperty id properties name = .ok () ↔ name ∈ properties.map (·.apiName) := by
  unfold checkProperty
  split_ifs with h
  · simpa using h
  · simpa using h

/-- An object type is built when its names pass, its properties are settled, the primary key and the
title are among them, and every implementation is accepted. -/
theorem build_eq_ok_iff :
    draft.build policy registry = .ok object ↔
      policy.checkIds [policy.id draft.name] = .ok () ∧
      policy.checkApiNames (draft.properties.map (·.apiName)) = .ok () ∧
      ∃ properties, ObjectPropertyDraft.buildAll policy registry (policy.id draft.name) []
          draft.properties = .ok properties ∧
        ∃ primaryKey, draft.primaryKey = some primaryKey ∧
          primaryKey ∈ properties.map (·.apiName) ∧
          draft.titleProperty.getD primaryKey ∈ properties.map (·.apiName) ∧
          ∃ implementations, List.Forall₂ (fun implementation resolved ↦
              Implementation.resolve registry (policy.id draft.name)
                (policy.id implementation.interface) properties
                (implementation.mappings.map fun (interfaceProperty, objectProperty) ↦
                  ⟨policy.id interfaceProperty, objectProperty⟩) = .ok resolved)
              draft.implements implementations ∧
            { id := policy.id draft.name
              displayName := draft.displayName.getD (policy.id draft.name).localName
              pluralDisplayName := draft.pluralDisplayName.getD
                (draft.displayName.getD (policy.id draft.name).localName ++ "s")
              description := draft.description
              primaryKey
              titleProperty := draft.titleProperty.getD primaryKey
              properties
              implements := implementations } = object := by
  simp only [build, SchemaError.ofNaming, bind_eq_ok_iff, mapError_eq_ok_iff]
  cases draft.primaryKey with
  | none => simp
  | some primaryKey =>
    simp only [bind_eq_ok_iff, pure_eq_ok_iff, mapM_eq_ok_iff, exists_unit_eq_ok_and_iff,
      checkProperty_eq_ok_iff, Option.some.injEq, exists_eq_left']

theorem build_id (h : draft.build policy registry = .ok object) :
    object.id = policy.id draft.name := by
  obtain ⟨-, -, properties, -, primaryKey, -, -, -, implementations, -, rfl⟩ := build_eq_ok_iff.mp h
  rfl

end ObjectDraft

end Ontology
