import Ontology.Definition.Action
import Ontology.Definition.Interface
import Mathlib.Tactic.SplitIfs

/-!
What a registry holds after a write. A side of a registry is seen through `EntityStore.find?` alone:
`find?_insert` says that a write shows at its own kind and identifier and nowhere else.
`Registry.Every` states a property of all entities on both sides, and every write keeps it that
writes an entity which has the property.
-/

set_option autoImplicit false
set_option relaxedAutoImplicit false

namespace Ontology

variable {P : Entity → Prop} {kind : EntityKind} {id : Identifier} {entity : Entity}

/-! ### One side -/

namespace EntityStore

variable {store : EntityStore}

/-- A write shows at its own kind and identifier and nowhere else. -/
theorem find?_insert :
    (store.insert entity).find? kind id =
      if kind = entity.kind ∧ id = entity.id then some entity else store.find? kind id := by
  cases entity <;> cases kind <;>
    simp only [insert, find?, Entity.kind, Entity.id, Table.get?_insert, reduceCtorEq, false_and,
      true_and, if_false] <;>
    split_ifs <;> rfl

/-- A store is determined by what is found in it. -/
theorem ext_find? {first second : EntityStore}
    (h : ∀ kind id, first.find? kind id = second.find? kind id) : first = second := by
  obtain ⟨shared, interfaces, objects, actions, values⟩ := first
  obtain ⟨shared', interfaces', objects', actions', values'⟩ := second
  congr 1
  · exact Table.ext_get? fun id ↦
      Option.map_injective (fun _ _ ↦ Entity.sharedPropertyType.inj) (h .sharedPropertyType id)
  · exact Table.ext_get? fun id ↦
      Option.map_injective (fun _ _ ↦ Entity.interfaceType.inj) (h .interfaceType id)
  · exact Table.ext_get? fun id ↦
      Option.map_injective (fun _ _ ↦ Entity.objectType.inj) (h .objectType id)
  · exact Table.ext_get? fun id ↦
      Option.map_injective (fun _ _ ↦ Entity.actionType.inj) (h .actionType id)
  · exact Table.ext_get? fun id ↦
      Option.map_injective (fun _ _ ↦ Entity.valueType.inj) (h .valueType id)

theorem find?_empty : ({} : EntityStore).find? kind id = none := by
  cases kind <;> rfl

/-- Every entity of a store has a property. -/
def Every (P : Entity → Prop) (store : EntityStore) : Prop :=
  ∀ kind id entity, store.find? kind id = some entity → P entity

theorem every_empty : Every P {} := by
  intro kind id entity h
  rw [find?_empty] at h
  cases h

theorem Every.insert (h : store.Every P) (hentity : P entity) : (store.insert entity).Every P := by
  intro kind id found hfound
  rw [find?_insert] at hfound
  split_ifs at hfound with hsame
  · cases hfound
    exact hentity
  · exact h kind id found hfound

end EntityStore

/-! ### Both sides -/

namespace Registry

variable {registry : Registry}

/-- Every entity of a registry, defined or imported, has a property. -/
structure Every (P : Entity → Prop) (registry : Registry) : Prop where
  defined : registry.defined.Every P
  imported : registry.imported.Every P

theorem every_empty : Registry.empty.Every P :=
  ⟨EntityStore.every_empty, EntityStore.every_empty⟩

namespace Every

theorem register (h : registry.Every P) (hentity : P entity) : (registry.register entity).Every P :=
  ⟨h.defined.insert hentity, h.imported⟩

theorem addImported (h : registry.Every P) (hentity : P entity) :
    (registry.addImported entity).Every P :=
  ⟨h.defined, h.imported.insert hentity⟩

theorem registerAction (h : registry.Every P) {compiled : CompiledAction}
    (haction : P (.actionType compiled.actionType)) : (compiled.register registry).Every P := by
  have hregistered := h.register haction
  unfold CompiledAction.register
  split <;> exact ⟨hregistered.defined, hregistered.imported⟩

theorem extend (h : registry.Every P) {policy : NamingPolicy} {draft : InterfaceDraft}
    (hshared : ∀ type ∈ draft.sharedProperties policy, P (.sharedPropertyType type))
    (hinterface : P (.interfaceType (draft.build policy))) :
    (draft.extendRegistry policy registry).Every P := by
  refine register ?_ hinterface
  generalize draft.sharedProperties policy = types at hshared
  induction types generalizing registry with
  | nil => exact h
  | cons type rest ih =>
    exact ih (h.register (hshared type List.mem_cons_self)) fun other hother ↦
      hshared other (List.mem_cons_of_mem type hother)

/-- What is found on either side has the property. -/
theorem of_lookup (h : registry.Every P) (hlookup : registry.lookup kind id = some entity) :
    P entity := by
  rw [lookup, Option.or_eq_some_iff] at hlookup
  rcases hlookup with hdefined | ⟨-, himported⟩
  · exact h.defined kind id entity hdefined
  · exact h.imported kind id entity himported

end Every

theorem lookup_sharedPropertyType :
    registry.lookup .sharedPropertyType id =
      (registry.sharedPropertyType? id).map .sharedPropertyType := by
  rw [lookup, EntityStore.find?, EntityStore.find?, sharedPropertyType?, Option.map_or]

theorem lookup_interfaceType :
    registry.lookup .interfaceType id = (registry.interfaceType? id).map .interfaceType := by
  rw [lookup, EntityStore.find?, EntityStore.find?, interfaceType?, Option.map_or]

theorem lookup_objectType :
    registry.lookup .objectType id = (registry.objectType? id).map .objectType := by
  rw [lookup, EntityStore.find?, EntityStore.find?, objectType?, Option.map_or]

theorem lookup_valueType :
    registry.lookup .valueType id = (registry.valueType? id).map .valueType := by
  rw [lookup, EntityStore.find?, EntityStore.find?, valueType?, Option.map_or]

end Registry

end Ontology
