import Ontology.Proofs.Inheritance.Resolution
import Ontology.Proofs.Registry.Entities

/-!
Registries that hold all of another one. `Registry.Within` asks that every shared property type,
interface type and object type which is found in a registry is found in a second one as well, no
matter on which side it stands there. Flattenings carry over, and so do the effective properties of
interfaces (`Within.interfaceProperties`): nothing that a registry adds can change what was found
before.
-/

set_option autoImplicit false
set_option relaxedAutoImplicit false

namespace Ontology.Registry

open Outcome

variable {registry larger : Registry} {id : Identifier}

/-- Whatever describes data in one registry is found in another one. -/
structure Within (registry larger : Registry) : Prop where
  sharedPropertyType : ∀ {id : Identifier} {type : SharedPropertyType},
    registry.sharedPropertyType? id = some type → larger.sharedPropertyType? id = some type
  interfaceType : ∀ {id : Identifier} {type : InterfaceType},
    registry.interfaceType? id = some type → larger.interfaceType? id = some type
  objectType : ∀ {id : Identifier} {type : ObjectType},
    registry.objectType? id = some type → larger.objectType? id = some type

namespace Within

/-! ### Registries that grow -/

theorem trans {largest : Registry} (h : registry.Within larger) (hmore : larger.Within largest) :
    registry.Within largest :=
  ⟨hmore.sharedPropertyType ∘ h.sharedPropertyType, hmore.interfaceType ∘ h.interfaceType,
    hmore.objectType ∘ h.objectType⟩

/-- It is enough that lookups give the same. -/
theorem of_lookup
    (h : ∀ kind id entity, registry.lookup kind id = some entity →
      larger.lookup kind id = some entity) : registry.Within larger := by
  constructor
  · intro id type htype
    have hfound := h .sharedPropertyType id (.sharedPropertyType type)
    simp only [lookup_sharedPropertyType, Option.map_eq_some_iff, Entity.sharedPropertyType.injEq,
      exists_eq_right] at hfound
    exact hfound htype
  · intro id type htype
    have hfound := h .interfaceType id (.interfaceType type)
    simp only [lookup_interfaceType, Option.map_eq_some_iff, Entity.interfaceType.injEq,
      exists_eq_right] at hfound
    exact hfound htype
  · intro id type htype
    have hfound := h .objectType id (.objectType type)
    simp only [lookup_objectType, Option.map_eq_some_iff, Entity.objectType.injEq,
      exists_eq_right] at hfound
    exact hfound htype

/-- A registry grows by an entity under an identifier that is free. -/
theorem register {entity : Entity} (hfree : registry.lookup entity.kind entity.id = none) :
    registry.Within (registry.register entity) := by
  refine of_lookup fun kind id found hfound ↦ ?_
  have hother : ¬ (kind = entity.kind ∧ id = entity.id) := by
    rintro ⟨rfl, rfl⟩
    simp [hfree] at hfound
  rw [lookup, Registry.register, EntityStore.find?_insert, if_neg hother]
  exact hfound

/-- What a registry defines may as well be imported, if it imports nothing else. -/
theorem moved (himported : registry.imported = {}) :
    registry.Within { imported := registry.defined } := by
  refine of_lookup fun kind id found hfound ↦ ?_
  rw [lookup, himported, EntityStore.find?_empty, Option.or_none] at hfound
  rw [lookup, EntityStore.find?_empty, Option.none_or]
  exact hfound

/-! ### Interfaces -/

/-- A declaration stands for the same property. -/
theorem standsFor (h : registry.Within larger) {declaration : InterfaceProperty}
    {property : EffectiveProperty} (hstands : registry.StandsFor id declaration property) :
    larger.StandsFor id declaration property := by
  cases hstands with
  | shared htype => exact .shared (h.sharedPropertyType htype)
  | inline => exact .inline

theorem flattening (h : registry.Within larger) {flattened : List EffectiveProperty}
    (hflattening : registry.Flattening id flattened) : larger.Flattening id flattened := by
  induction hflattening with
  | of hinterface hown _ ih =>
    exact .of (h.interfaceType hinterface) (hown.imp fun _ _ ↦ h.standsFor) ih

/-- An interface that resolves has the same effective properties. -/
theorem interfaceProperties (h : registry.Within larger) (id : Identifier) :
    Persists (registry.interfaceProperties id) (larger.interfaceProperties id) := by
  intro effective heffective
  obtain ⟨flattened, hflattening, hagree⟩ := interfaceProperties_eq_ok_iff.mp heffective
  exact interfaceProperties_eq_ok_iff.mpr ⟨flattened, h.flattening hflattening, hagree⟩

end Within

end Ontology.Registry
