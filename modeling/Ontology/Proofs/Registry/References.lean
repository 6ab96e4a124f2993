import Ontology.Proofs.Action.EntityReferences
import Ontology.Proofs.Object.Mappings
import Ontology.Proofs.Session.Interfaces

/-!
The entities that an entity refers to. A shared property type names a value type, an interface names
its parents and shared property types, and an object names the interfaces that it implements and the
shared property types behind its properties (`Entity.references`). A definition looks all of these
up, in one way or another, and refuses what is not registered, with one exception: a property of an
object that is declared by hand may name any shared property type. So an entity that has been
defined refers to registered entities exactly when the references in such declarations hold
(`Definition.references_of_apply`), and these need not hold
(`Definition.not_forall_references_registered`).
-/

set_option autoImplicit false
set_option relaxedAutoImplicit false

namespace Ontology

open Outcome

/-! ### References of entities -/

/-- The shared property type that a declaration on an interface refers to. -/
def InterfaceProperty.references : InterfaceProperty → List (EntityKind × Identifier)
  | .shared id _ => [(.sharedPropertyType, id)]
  | .inline _ _ _ _ => []

/-- The shared property type behind a property of an object. -/
def ObjectProperty.references (property : ObjectProperty) : List (EntityKind × Identifier) :=
  property.sharedPropertyType.toList.map fun id ↦ (.sharedPropertyType, id)

/-- The entities that an entity refers to, with their kinds. -/
def Entity.references : Entity → List (EntityKind × Identifier)
  | .sharedPropertyType type => type.valueType.toList.map fun id ↦ (.valueType, id)
  | .interfaceType interface =>
    interface.parents.map (fun id ↦ (.interfaceType, id)) ++
      interface.properties.flatMap (·.references)
  | .objectType object =>
    object.implements.map (fun implementation ↦ (.interfaceType, implementation.interface)) ++
      object.properties.flatMap (·.references)
  | .actionType action => action.references
  | .valueType _ => []

/-- The references of a property that is declared by hand. -/
def ObjectPropertyDraft.givenReferences : ObjectPropertyDraft → List (EntityKind × Identifier)
  | .declared property => property.references
  | .shared _ _ => []

/-- The references in a definition of data that are not looked up. For actions there are none here:
what they refer to is decided by their compilation. -/
def Definition.givenReferences : Definition → List (EntityKind × Identifier)
  | .objectType draft => draft.properties.flatMap (·.givenReferences)
  | .sharedProperty _ | .valueType _ | .interfaceType _ | .generatedAction _ | .manualAction _ => []

variable {policy : NamingPolicy} {registry next : Registry} {definition : Definition}

/-! ### Lookups after a registration -/

namespace Registry

theorem find?_register_self (registry : Registry) (entity : Entity) :
    (registry.register entity).defined.find? entity.kind entity.id = some entity := by
  rw [register, EntityStore.find?_insert, if_pos ⟨rfl, rfl⟩]

theorem lookup_of_find? {kind : EntityKind} {id : Identifier} {entity : Entity}
    (h : registry.defined.find? kind id = some entity) : registry.lookup kind id = some entity := by
  rw [lookup, h]
  rfl

theorem Holds.register {reference : EntityKind × Identifier} (h : registry.Holds reference)
    (entity : Entity) : (registry.register entity).Holds reference :=
  isSome_lookup_register h

end Registry

/-! ### What is looked up -/

/-- A shared property type that is accepted names a registered value type, if any. -/
theorem SharedPropertyDraft.holds_of_checkValueType {type : SharedPropertyType}
    (h : checkValueType registry type = .ok ()) :
    ∀ reference ∈ (Entity.sharedPropertyType type).references, registry.Holds reference := by
  intro reference hreference
  obtain ⟨id, hid, rfl⟩ := List.mem_map.mp hreference
  rw [Option.mem_toList] at hid
  rw [checkValueType, hid] at h
  dsimp only at h
  split_ifs at h with hregistered
  rwa [Registry.Holds, Registry.lookup_valueType, Option.isSome_map]

/-- A coherent interface names registered parents and shared property types. -/
theorem Registry.Coherent.holds_references {id : Identifier} {interface : InterfaceType}
    (h : registry.Coherent id)
    (hfound : registry.lookup .interfaceType id = some (.interfaceType interface)) :
    ∀ reference ∈ (Entity.interfaceType interface).references, registry.Holds reference := by
  rw [lookup_interfaceType, Option.map_eq_some_iff] at hfound
  obtain ⟨_, hinterface, ⟨⟩⟩ := hfound
  intro reference hreference
  rcases List.mem_append.mp hreference with hextends | hdeclares
  · obtain ⟨parent, hparent, rfl⟩ := List.mem_map.mp hextends
    rw [Holds, lookup_interfaceType, Option.isSome_map]
    exact h.registered parent (.single ⟨_, hinterface, hparent⟩)
  · obtain ⟨declaration, hdeclaration, hreference⟩ := List.mem_flatMap.mp hdeclares
    cases declaration with
    | inline => cases hreference
    | shared shared required =>
      have hnamed : reference = (.sharedPropertyType, shared) := List.mem_singleton.mp hreference
      rw [hnamed, Holds, lookup_sharedPropertyType, Option.isSome_map]
      exact h.shared shared required ⟨id, .refl, _, hinterface, hdeclaration⟩

namespace ObjectPropertyDraft

variable {object : Identifier} {draft : ObjectPropertyDraft} {property : ObjectProperty}

/-- The shared property type behind a property is registered, unless it is named by hand. -/
theorem holds_of_build (h : draft.build policy registry object = .ok property) :
    ∀ reference ∈ property.references,
      registry.Holds reference ∨ reference ∈ draft.givenReferences := by
  intro reference hreference
  cases draft with
  | declared declared =>
    cases h
    exact .inr hreference
  | shared apiName name =>
    rw [build] at h
    split at h
    · cases h
    · next behind hbehind =>
      cases h
      have hnamed : reference = (.sharedPropertyType, policy.id name) :=
        List.mem_singleton.mp hreference
      rw [hnamed, Registry.Holds, Registry.lookup_sharedPropertyType, hbehind]
      exact .inl rfl

/-- What is named by hand stays. -/
theorem givenReferences_subset (h : draft.build policy registry object = .ok property) :
    draft.givenReferences ⊆ property.references := by
  cases draft with
  | declared declared =>
    cases h
    exact List.Subset.refl _
  | shared => exact List.nil_subset _

end ObjectPropertyDraft

namespace ObjectDraft

variable {draft : ObjectDraft} {object : ObjectType}

/-- The interfaces that an object implements are registered, and so are the shared property types
behind its properties, unless they are named by hand. -/
theorem holds_of_build (h : draft.build policy registry = .ok object) :
    ∀ reference ∈ (Entity.objectType object).references,
      registry.Holds reference ∨ reference ∈ (Definition.objectType draft).givenReferences := by
  obtain ⟨-, -, hdrafts, hresolved⟩ := complete_of_build h
  intro reference hreference
  rcases List.mem_append.mp hreference with himplements | hproperty
  · obtain ⟨implementation, himplementation, rfl⟩ := List.mem_map.mp himplements
    obtain ⟨written, -, hresolve⟩ := exists_of_mem_forall₂ hresolved himplementation
    obtain ⟨hinterface, effective, heffective, -⟩ := Implementation.complete_of_resolve hresolve
    have hholds : registry.Holds (.interfaceType, policy.id written.interface) :=
      Registry.holds_of_interfaceProperties heffective
    rw [← hinterface] at hholds
    exact .inl hholds
  · obtain ⟨property, hproperty, hreference⟩ := List.mem_flatMap.mp hproperty
    obtain ⟨drafted, hdrafted, hbuilt⟩ := hdrafts property hproperty
    refine (ObjectPropertyDraft.holds_of_build hbuilt reference hreference).imp_right ?_
    exact fun hgiven ↦ List.mem_flatMap.mpr ⟨drafted, hdrafted, hgiven⟩

theorem givenReferences_subset (h : draft.build policy registry = .ok object) :
    (Definition.objectType draft).givenReferences ⊆ (Entity.objectType object).references := by
  obtain ⟨-, -, properties, hproperties, -, -, -, -, -, -, rfl⟩ := build_eq_ok_iff.mp h
  intro reference hgiven
  obtain ⟨drafted, hdrafted, hgiven⟩ := List.mem_flatMap.mp hgiven
  obtain ⟨property, hproperty, hbuilt⟩ :=
    exists_ok_of_mem_mapM (ObjectPropertyDraft.buildAll_eq_ok_iff.mp hproperties).2 hdrafted
  refine List.mem_append_right _ (List.mem_flatMap.mpr ⟨property, hproperty, ?_⟩)
  exact ObjectPropertyDraft.givenReferences_subset hbuilt hgiven

end ObjectDraft

/-! ### Definitions -/

namespace Definition

/-- An entity of data that has been defined refers to what is registered or given by hand, and to
all that is given by hand. -/
theorem exists_references_of_apply (h : definition.apply policy registry = .ok next)
    (hdata : definition.kind ≠ .actionType) :
    ∃ entity, next.defined.find? definition.kind (definition.id policy) = some entity ∧
      (∀ reference ∈ entity.references,
        next.Holds reference ∨ reference ∈ definition.givenReferences) ∧
      definition.givenReferences ⊆ entity.references := by
  cases apply_eq_ok_iff.mp h with
  | sharedProperty _ hvalueType =>
    refine ⟨_, Registry.find?_register_self _ _, fun reference hreference ↦ .inl ?_,
      List.nil_subset _⟩
    exact (SharedPropertyDraft.holds_of_checkValueType hvalueType reference hreference).register _
  | valueType => exact ⟨_, Registry.find?_register_self _ _, nofun, List.nil_subset _⟩
  | @interfaceType draft effective _ _ _ =>
    have hfound : (draft.extendRegistry policy registry).defined.find? .interfaceType
        (policy.id draft.name) = some (.interfaceType (draft.build policy)) :=
      Registry.find?_register_self _ _
    refine ⟨_, hfound, fun reference hreference ↦ .inl ?_, List.nil_subset _⟩
    exact (coherent_of_apply h rfl).holds_references (Registry.lookup_of_find? hfound) reference
      hreference
  | @objectType draft object hbuild =>
    have hfound : (registry.register (.objectType object)).defined.find? .objectType
        (policy.id draft.name) = some (.objectType object) :=
      ObjectDraft.build_id hbuild ▸ Registry.find?_register_self registry (.objectType object)
    refine ⟨_, hfound, fun reference hreference ↦ ?_, ObjectDraft.givenReferences_subset hbuild⟩
    · exact (ObjectDraft.holds_of_build hbuild reference hreference).imp_left (·.register _)
  | generatedAction | manualAction => exact absurd rfl hdata

/-- An entity of data that has been defined refers to registered entities only, apart from shared
property types that are named by hand. So all that it refers to is registered exactly when these
are. -/
theorem references_of_apply (h : definition.apply policy registry = .ok next)
    (hdata : definition.kind ≠ .actionType) :
    ∃ entity, next.defined.find? definition.kind (definition.id policy) = some entity ∧
      (∀ reference ∈ entity.references,
        next.Holds reference ∨ reference ∈ definition.givenReferences) ∧
      ((∀ reference ∈ entity.references, next.Holds reference) ↔
        ∀ reference ∈ definition.givenReferences, next.Holds reference) := by
  obtain ⟨entity, hentity, hholds, hgiven⟩ := exists_references_of_apply h hdata
  refine ⟨entity, hentity, hholds, fun hall reference hreference ↦ ?_,
    fun hall reference hreference ↦ ?_⟩
  · exact hall reference (hgiven hreference)
  · exact (hholds reference hreference).elim (fun hheld ↦ hheld) (hall reference)

/-- A meter names a shared property type by hand, and this one is registered. -/
theorem references_of_apply_meter :
    ∃ next, (Definition.objectType Fixture.meter).apply ⟨⟨"com.example."⟩, true⟩
        (Fixture.registry Fixture.asset) = .ok next ∧
      ∃ entity, next.defined.find? .objectType ⟨"com.example.meter"⟩ = some entity ∧
        ∀ reference ∈ entity.references, next.Holds reference := by
  have hcomputed : ((Definition.objectType Fixture.meter).apply ⟨⟨"com.example."⟩, true⟩
      (Fixture.registry Fixture.asset)).toOption.map (fun next ↦
        decide (∀ reference ∈ (Definition.objectType Fixture.meter).givenReferences,
          next.Holds reference)) = some true := by
    decide +kernel
  obtain ⟨next, hnext, hview⟩ := exists_of_toOption_map hcomputed
  obtain ⟨entity, hentity, -, hall⟩ := references_of_apply hnext nofun
  exact ⟨next, hnext, entity, hentity, hall.mpr (of_decide_eq_true hview)⟩

end Definition

/-- An object with a reading, behind which some shared property type is said to stand. -/
def Fixture.probe (behind : Identifier) : ObjectDraft where
  name := .auto "probe"
  primaryKey := some "code"
  properties :=
    [property "code" text,
      .declared
        { apiName := "reading"
          type := .scalar .double
          displayName := "Reading"
          description := none
          sharedPropertyType := some behind }]

namespace Definition

/-- A shared property type that does not exist is said to stand behind the reading of a probe. -/
theorem not_forall_references_registered :
    ¬ ∀ (policy : NamingPolicy) (registry next : Registry) (definition : Definition)
      (entity : Entity), definition.apply policy registry = .ok next →
        definition.kind ≠ .actionType →
          next.defined.find? definition.kind (definition.id policy) = some entity →
            ∀ reference ∈ entity.references, next.Holds reference := by
  intro hall
  let probe : Definition := .objectType (Fixture.probe ⟨"com.example.ghost"⟩)
  have hcomputed : (probe.apply ⟨⟨"com.example."⟩, true⟩ (Fixture.registry [])).toOption.map
      (fun next ↦ (next.defined.find? .objectType ⟨"com.example.probe"⟩).map fun entity ↦
        decide (∀ reference ∈ entity.references, next.Holds reference)) = some (some false) := by
    decide +kernel
  obtain ⟨next, hnext, hview⟩ := exists_of_toOption_map hcomputed
  obtain ⟨entity, hentity, hview⟩ := Option.map_eq_some_iff.mp hview
  exact of_decide_eq_false hview (hall _ _ next probe entity hnext nofun hentity)

end Definition

end Ontology
