import Ontology.Proofs.Lookup
import Ontology.Proofs.Outcome
import Ontology.Action.Target

/-!
The targets that a registry resolves: object types with their properties as they are, and interfaces
with effective properties whose local names are distinct. `resolve_eq_ok_iff` lists the two ways.
What a target says of its properties agrees with what the registry says of them when it is asked
again (`registered_of_resolve`).
-/

set_option autoImplicit false
set_option relaxedAutoImplicit false

namespace Ontology

open Outcome

/-- Effective properties pass when their local names are distinct and new. -/
theorem checkParameterIds_eq_ok_iff {earlier properties : List EffectiveProperty} :
    checkParameterIds earlier properties = .ok () ↔
      (properties.map (·.id.localName)).Nodup ∧
        ∀ property ∈ properties, ∀ other ∈ earlier, other.id.localName ≠ property.id.localName := by
  induction properties generalizing earlier with
  | nil => simp [checkParameterIds]
  | cons property rest ih =>
    rw [checkParameterIds, List.map_cons, List.nodup_cons]
    split
    · next first hfirst =>
      have hmem := List.mem_of_find?_eq_some hfirst
      have hsame : first.id.localName = property.id.localName := by
        simpa using List.find?_some hfirst
      simp only [reduceCtorEq, false_iff, not_and]
      intro _ hnew
      exact hnew property List.mem_cons_self first hmem hsame
    · next hnone =>
      rw [ih]
      simp only [List.find?_eq_none, decide_eq_true_eq] at hnone
      simp only [List.mem_cons, forall_eq_or_imp, List.mem_map, not_exists, not_and]
      constructor
      · rintro ⟨hnodup, hnew⟩
        exact ⟨⟨fun other hother hsame ↦ (hnew other hother).1 hsame.symm, hnodup⟩, hnone,
          fun other hother ↦ (hnew other hother).2⟩
      · rintro ⟨⟨hhead, hnodup⟩, -, hnew⟩
        exact ⟨hnodup, fun other hother ↦
          ⟨fun hsame ↦ hhead other hother hsame.symm, hnew other hother⟩⟩

/-- Effective properties whose local names are distinct are different ones. -/
theorem nodup_of_localNames {properties : List EffectiveProperty}
    (h : (properties.map (·.id.localName)).Nodup) : (properties.map (·.id)).Nodup := by
  refine List.Nodup.of_map (·.localName) ?_
  rw [List.map_map]
  exact h

namespace ActionTarget

variable {registry : Registry} {named : CrudTarget} {target : ActionTarget}

/-- A target is an object type, or an interface whose effective properties resolve under distinct
local names. -/
theorem resolve_eq_ok_iff :
    resolve registry named = .ok target ↔
      (∃ id object, named = .object id ∧ registry.objectType? id = some object ∧
        ofObject id object = target) ∨
      ∃ id interface properties, named = .interface id ∧
        registry.interfaceType? id = some interface ∧
        registry.interfaceProperties id = .ok properties ∧
        (properties.map (·.id.localName)).Nodup ∧ ofInterface id interface properties = target := by
  cases named with
  | object id =>
    cases hobject : registry.objectType? id with
    | none => simp [resolve, hobject]
    | some object => simp [resolve, hobject]
  | interface id =>
    cases hinterface : registry.interfaceType? id with
    | none => simp [resolve, hinterface]
    | some interface =>
      simp [resolve, hinterface, ActionError.ofSchema, checkParameterIds_eq_ok_iff]

/-- The properties of a target go by keys of their own. Those of an object are its api names, and
those of an interface are as different as their local names, which have been checked. -/
theorem keys_nodup
    (hobjects : ∀ id object, registry.objectType? id = some object → object.propertyNames.Nodup)
    (h : resolve registry named = .ok target) : (target.properties.map (·.key)).Nodup := by
  rcases resolve_eq_ok_iff.mp h with ⟨id, object, -, hobject, rfl⟩ |
    ⟨id, interface, properties, -, -, -, hnodup, rfl⟩
  · rw [ofObject, List.map_map]
    exact hobjects id object hobject
  · have hids := nodup_of_localNames hnodup
    have htexts : Function.Injective Identifier.text := fun _ _ hsame ↦ congrArg Identifier.mk hsame
    have hkeys := hids.map htexts
    rw [List.map_map] at hkeys
    rw [ofInterface, List.map_map]
    exact hkeys

/-- Properties with keys of their own go by parameter ids of their own. Those of an object go by
their keys, and those of an interface have been checked. -/
theorem parameterIds_nodup_of_keys (hkeys : (target.properties.map (·.key)).Nodup)
    (h : resolve registry named = .ok target) : (target.properties.map (·.parameterId)).Nodup := by
  rcases resolve_eq_ok_iff.mp h with ⟨id, object, -, -, rfl⟩ |
    ⟨id, interface, properties, -, -, -, hnodup, rfl⟩
  · rw [ofObject, List.map_map] at hkeys ⊢
    exact hkeys
  · rw [ofInterface, List.map_map]
    exact hnodup

/-- The properties of a target go by different parameter ids. -/
theorem parameterIds_nodup
    (hobjects : ∀ id object, registry.objectType? id = some object → object.propertyNames.Nodup)
    (h : resolve registry named = .ok target) : (target.properties.map (·.parameterId)).Nodup :=
  parameterIds_nodup_of_keys (keys_nodup hobjects h) h

/-- Every property of a target is found under its key, with its type, in the entity that the
registry has under the identifier of the target. -/
structure Registered (registry : Registry) (target : ActionTarget) : Prop where
  object : target.isInterface = false →
    ∃ object, registry.objectType? target.id = some object ∧
      ∀ property ∈ target.properties, ∃ declared,
        object.property? property.key = some declared ∧ declared.type = property.type
  interface : target.isInterface = true →
    ∃ effective, registry.interfaceProperties target.id = .ok effective ∧
      ∀ property ∈ target.properties, ∃ found,
        effective.find? (·.id = ⟨property.key⟩) = some found ∧ found.type = property.type

/-- A target that resolves is registered, if its properties have keys of their own. -/
theorem registered_of_resolve
    (hobject : ∀ id object, named = .object id → registry.objectType? id = some object →
      object.propertyNames.Nodup)
    (h : resolve registry named = .ok target) : target.Registered registry := by
  rcases resolve_eq_ok_iff.mp h with ⟨id, object, hnamed, hfound, rfl⟩ |
    ⟨id, interface, properties, -, -, hproperties, hnodup, rfl⟩
  · refine ⟨fun _ ↦ ⟨object, hfound, fun property hproperty ↦ ?_⟩, fun hinterface ↦ ?_⟩
    · obtain ⟨declared, hdeclared, rfl⟩ := List.mem_map.mp hproperty
      exact ⟨declared, Lookup.find?_eq_some (hobject id object hnamed hfound) hdeclared, rfl⟩
    · cases hinterface
  · refine ⟨fun hinterface ↦ ?_, fun _ ↦ ⟨properties, hproperties, fun property hproperty ↦ ?_⟩⟩
    · cases hinterface
    · obtain ⟨effective, heffective, rfl⟩ := List.mem_map.mp hproperty
      have hids := nodup_of_localNames hnodup
      exact ⟨effective, Lookup.find?_eq_some hids heffective, rfl⟩

end ActionTarget

end Ontology
