import Ontology.Proofs.Object.Building
import Ontology.Proofs.Registry.Entities
import Ontology.Proofs.Registry.Step
import Ontology.Scenario.Fixture
import Mathlib.Data.List.Nodup

/-!
Registries that come about by definitions. `Registry.Built` starts from nothing, makes definitions
under any policies, and imports entities of registries that came about in the same way. In all of
these the properties of an object have api names of their own
(`Registry.Built.propertyNames_nodup`), because a definition refuses a repeated one.
-/

set_option autoImplicit false
set_option relaxedAutoImplicit false

namespace Ontology

open Outcome

/-- A registry whose entities have all been defined, there or where they were imported from. -/
inductive Registry.Built : Registry → Prop
  | empty : Built .empty
  | define {registry next : Registry} {policy : NamingPolicy} {definition : Definition}
      (hbuilt : Built registry) (happly : definition.apply policy registry = .ok next) : Built next
  | addImported {registry source : Registry} {kind : EntityKind} {id : Identifier}
      {entity : Entity} (hbuilt : Built registry) (hsource : Built source)
      (hlookup : source.lookup kind id = some entity) : Built (registry.addImported entity)

/-! ### Distinct property names -/

/-- The properties of an object have api names of their own. -/
def Entity.DistinctProperties : Entity → Prop
  | .objectType object => object.propertyNames.Nodup
  | _ => True

variable {policy : NamingPolicy} {registry next : Registry} {definition : Definition}

/-- An object that is accepted has distinct property names. -/
theorem ObjectDraft.build_nodup {draft : ObjectDraft} {object : ObjectType}
    (h : draft.build policy registry = .ok object) : object.propertyNames.Nodup := by
  obtain ⟨-, -, properties, hproperties, -, -, -, -, -, -, rfl⟩ := build_eq_ok_iff.mp h
  rw [ObjectType.propertyNames, ObjectPropertyDraft.apiNames_of_buildAll hproperties]
  exact (ObjectPropertyDraft.buildAll_eq_ok_iff.mp hproperties).1.1

/-- A definition keeps the api names of properties distinct. -/
theorem Definition.apply_distinctProperties (h : registry.Every Entity.DistinctProperties)
    (happly : definition.apply policy registry = .ok next) :
    next.Every Entity.DistinctProperties := by
  cases apply_eq_ok_iff.mp happly with
  | sharedProperty | valueType => exact h.register trivial
  | interfaceType => exact h.extend (fun _ _ ↦ trivial) trivial
  | objectType hbuild => exact h.register (ObjectDraft.build_nodup hbuild)
  | generatedAction | manualAction => exact h.registerAction trivial

namespace Registry.Built

theorem distinctProperties (h : registry.Built) : registry.Every Entity.DistinctProperties := by
  induction h with
  | empty => exact every_empty
  | define _ happly ih => exact Definition.apply_distinctProperties ih happly
  | addImported _ _ hlookup ih ihsource => exact ih.addImported (ihsource.of_lookup hlookup)

/-- Every object has properties with api names of their own. -/
theorem propertyNames_nodup (h : registry.Built) {id : Identifier} {object : ObjectType}
    (hobject : registry.objectType? id = some object) : object.propertyNames.Nodup := by
  have hlookup : registry.lookup .objectType id = some (.objectType object) := by
    rw [lookup_objectType, hobject, Option.map_some]
  exact h.distinctProperties.of_lookup hlookup

end Registry.Built

/-! ### Registries of sessions -/

/-- A session that makes definitions only has a registry that has been built. -/
theorem Session.run_built {session : Session} (h : session.registry.Built)
    (definitions : List Definition) : (session.run definitions).1.registry.Built :=
  run_keeps h (fun _ _ _ happly hbuilt ↦ .define hbuilt happly) definitions

theorem Fixture.registry_built (definitions : List Definition) :
    (Fixture.registry definitions).Built :=
  Session.run_built .empty definitions

end Ontology
