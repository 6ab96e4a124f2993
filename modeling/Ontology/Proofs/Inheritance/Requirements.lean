import Ontology.Proofs.Inheritance.Resolution
import Ontology.Proofs.Object.Building
import Ontology.Proofs.Registry.Declarations
import Ontology.Scenario.Fixture

/-!
Which properties an interface requires. A property may be declared on several of the interfaces that
are reached, by some as required and by others as optional. The walk keeps the first declaration
with its requirement, so what an ancestor requires is lost when an optional declaration of the same
property comes first (`Registry.OptionalFirst`); whether it does can hang on the order of two
parents. `requirement_kept_iff` says that this is the only way to lose a requirement, and that
objects which implement an interface map all that is not lost.
-/

set_option autoImplicit false
set_option relaxedAutoImplicit false

namespace Ontology

open Outcome

namespace Registry

variable {registry : Registry} {root property : Identifier} {found : EffectiveProperty}
  {properties effective : List EffectiveProperty}

/-- An interface or one that it extends declares a property as required. -/
def Requires (registry : Registry) (root property : Identifier) : Prop :=
  ∃ declaration, registry.DeclaredFrom root declaration ∧ declaration.id = property ∧
    declaration.required = true

/-- Of all declarations of a property that an interface inherits or makes, the first is optional. -/
def OptionalFirst (registry : Registry) (root property : Identifier) : Prop :=
  ∃ flattened first, registry.Flattening root flattened ∧
    flattened.find? (·.id = property) = some first ∧ first.required = false

/-- A property is the first of its identifier when it is the one that is found under it. -/
theorem mem_firstOfEach_iff :
    found ∈ firstOfEach properties ↔ properties.find? (·.id = found.id) = some found := by
  induction properties with
  | nil => simp [firstOfEach]
  | cons first rest ih =>
    rw [firstOfEach, List.mem_cons, List.mem_filter, List.find?_cons, ih]
    by_cases hid : first.id = found.id
    · simp [hid, eq_comm]
    · have hne : found ≠ first := fun h ↦ hid (h ▸ rfl)
      simp [hid, hne, Ne.symm hid]

/-- The effective property under an identifier is its first declaration. -/
theorem find?_of_interfaceProperties (h : registry.interfaceProperties root = .ok effective) :
    ∃ flattened, registry.Flattening root flattened ∧
      (∀ id, effective.find? (·.id = id) = flattened.find? (·.id = id)) ∧
      ∀ found, found ∈ effective ↔ flattened.find? (·.id = found.id) = some found := by
  obtain ⟨flattened, hflattened, -, rfl⟩ := interfaceProperties_eq_ok_iff.mp h
  exact ⟨flattened, hflattened, fun id ↦ find?_firstOfEach id flattened,
    fun found ↦ mem_firstOfEach_iff⟩

/-- Whether the first declaration is optional can be seen at the effective property. -/
theorem optionalFirst_iff (h : registry.interfaceProperties root = .ok effective) :
    registry.OptionalFirst root property ↔
      ∃ first, effective.find? (·.id = property) = some first ∧ first.required = false := by
  obtain ⟨flattened, hflattened, hfind, -⟩ := find?_of_interfaceProperties h
  rw [hfind]
  constructor
  · rintro ⟨other, first, hother, hfirst⟩
    cases hflattened.unique hother
    exact ⟨first, hfirst⟩
  · rintro ⟨first, hfirst⟩
    exact ⟨flattened, first, hflattened, hfirst⟩

/-- A property that is required somewhere is marked as required unless its first declaration is
optional. -/
theorem exists_required_iff (h : registry.interfaceProperties root = .ok effective)
    (hrequires : registry.Requires root property) :
    (∃ found ∈ effective, found.id = property ∧ found.required) ↔
      ¬ registry.OptionalFirst root property := by
  obtain ⟨flattened, hflattened, hfind, hmem⟩ := find?_of_interfaceProperties h
  obtain ⟨declaration, hdeclared, hid, -⟩ := hrequires
  obtain ⟨_, some, hsome, hstands⟩ := hflattened.exists_of_declaredFrom hdeclared
  obtain ⟨first, hfirst⟩ : ∃ first, flattened.find? (·.id = property) = .some first := by
    rw [← Option.isSome_iff_exists, List.find?_isSome]
    exact ⟨some, hsome, by simp [hstands.id_eq, hid]⟩
  have hfirstId : first.id = property := by simpa using List.find?_some hfirst
  rw [optionalFirst_iff h, hfind, hfirst]
  constructor
  · rintro ⟨found, hfound, rfl, hrequired⟩ ⟨other, hother, hoptional⟩
    rw [hmem, hfirst] at hfound
    cases hfound
    cases hother
    simp [hrequired] at hoptional
  · intro hnot
    refine ⟨first, (hmem first).mpr (hfirstId ▸ hfirst), hfirstId, ?_⟩
    simpa using hnot

end Registry

/-! ### Objects that implement an interface -/

namespace ObjectDraft

variable {policy : NamingPolicy} {registry next : Registry} {draft : ObjectDraft}
  {object : ObjectType} {implementation : Implementation}

/-- A definition of an object type puts the object that was built under its identifier. -/
theorem build_of_define (h : draft.define policy registry = .ok next)
    (hobject : next.objectType? (policy.id draft.name) = some object) :
    draft.build policy registry = .ok object := by
  obtain ⟨built, hbuilt, rfl⟩ := define_eq_ok_iff.mp h
  have hfound : (registry.register (.objectType built)).objectType? built.id = some built := by
    rw [Registry.objectType?, Registry.register, EntityStore.insert, Table.get?_insert, if_pos rfl,
      Option.some_or]
  rw [build_id hbuilt, hobject] at hfound
  cases hfound
  exact hbuilt

/-- An object maps every property that the interfaces which it implements are marked to require. -/
theorem mapsProperty_of_build (h : draft.build policy registry = .ok object)
    (himplementation : implementation ∈ object.implements) :
    ∃ effective, registry.interfaceProperties implementation.interface = .ok effective ∧
      ∀ property ∈ effective, property.required →
        Implementation.MapsProperty implementation.mappings property.id := by
  obtain ⟨-, -, properties, -, primaryKey, -, -, -, implementations, hresolved, rfl⟩ :=
    build_eq_ok_iff.mp h
  obtain ⟨written, -, hresolve⟩ := exists_of_mem_forall₂ hresolved himplementation
  obtain ⟨effective, heffective, -, completed, hcompleted, rfl⟩ :=
    Implementation.resolve_eq_ok_iff.mp hresolve
  exact ⟨effective, heffective, (Implementation.mapsProperty_of_complete hcompleted).2⟩

end ObjectDraft

/-! ### What is kept of a requirement -/

namespace Registry

variable {registry : Registry} {root : Identifier} {effective : List EffectiveProperty}

/-- What an interface or one above it requires is marked as required, and mapped by every object
that is defined to implement the interface, unless an optional declaration comes first. -/
theorem requirement_kept_iff (h : registry.interfaceProperties root = .ok effective) :
    ∀ property, registry.Requires root property →
      ((∃ found ∈ effective, found.id = property ∧ found.required) ↔
        ¬ registry.OptionalFirst root property) ∧
      ∀ policy draft next object, ObjectDraft.define policy registry draft = .ok next →
        next.objectType? (policy.id draft.name) = some object →
        ∀ implementation ∈ object.implements, implementation.interface = root →
          ¬ registry.OptionalFirst root property →
            ∃ mapping ∈ implementation.mappings, mapping.interfaceProperty = property := by
  intro property hrequires
  have hmarked := exists_required_iff h hrequires
  refine ⟨hmarked, ?_⟩
  rintro policy draft next object hdefine hobject implementation himplementation rfl hfirst
  have hbuild := ObjectDraft.build_of_define hdefine hobject
  obtain ⟨other, hother, hmaps⟩ := ObjectDraft.mapsProperty_of_build hbuild himplementation
  cases h.symm.trans hother
  obtain ⟨found, hfound, rfl, hrequired⟩ := hmarked.mpr hfirst
  exact hmaps found hfound hrequired

/-! ### Assets with a name and instruments without -/

/-- Assets are required to have a name because the interface above them requires it. -/
theorem requirement_kept_asset :
    ∃ effective,
      (Fixture.registry Fixture.asset).interfaceProperties ⟨"com.example.asset"⟩ = .ok effective ∧
      (Fixture.registry Fixture.asset).Requires ⟨"com.example.asset"⟩ ⟨"com.example.assetName"⟩ ∧
      ∃ found ∈ effective, found.id = ⟨"com.example.assetName"⟩ ∧ found.required := by
  -- All that is computed stands together, so that the registry is built once.
  obtain ⟨hcomputed, hextends, hdeclares⟩ :
      ((Fixture.registry Fixture.asset).interfaceProperties ⟨"com.example.asset"⟩).toOption.map
        (fun effective ↦
          (effective.find? (·.id = ⟨"com.example.assetName"⟩)).map (·.required)) =
        some (some true) ∧
      (Fixture.registry Fixture.asset).Extends ⟨"com.example.asset"⟩ ⟨"com.example.named"⟩ ∧
      (Fixture.registry Fixture.asset).Declares ⟨"com.example.named"⟩
        (.shared ⟨"com.example.assetName"⟩ true) := by
    decide +kernel
  obtain ⟨effective, heffective, hmarked⟩ := exists_of_toOption_map hcomputed
  obtain ⟨marked, hfound, hrequired⟩ := Option.map_eq_some_iff.mp hmarked
  have hrequires : (Fixture.registry Fixture.asset).Requires ⟨"com.example.asset"⟩
      ⟨"com.example.assetName"⟩ :=
    ⟨_, ⟨_, .single hextends, hdeclares⟩, rfl, rfl⟩
  refine ⟨effective, heffective, hrequires, ?_⟩
  refine (requirement_kept_iff heffective _ hrequires).1.mpr fun hoptional ↦ ?_
  obtain ⟨first, hfirst, hnot⟩ := (optionalFirst_iff heffective).mp hoptional
  rw [hfound] at hfirst
  cases hfirst
  simp [hrequired] at hnot

end Registry

/-- Interfaces that disagree on whether there must be a name: `named` requires it, `labelled` does
not, and `instrument` extends both, the latter first. -/
def Fixture.instrument : List Definition :=
  [.sharedProperty { name := .auto "assetName", type := text },
  .interfaceType { name := .auto "named", properties := [.shared (.auto "assetName") true] },
  .interfaceType { name := .auto "labelled", properties := [.shared (.auto "assetName") false] },
  .interfaceType
    { name := .auto "instrument", parents := [.auto "labelled", .auto "named"] }]

/-- An object that implements `instrument` and has no name. -/
def Fixture.gauge : ObjectDraft where
  name := .auto "gauge"
  primaryKey := some "code"
  properties := [property "code" text]
  implements := [{ interface := .auto "instrument" }]

namespace Registry

/-- Instruments are not required to have a name, although one of the interfaces above them requires
it, and a gauge is accepted without one. -/
theorem not_forall_requirement_kept :
    (¬ ∀ (registry : Registry) (root property : Identifier) (effective : List EffectiveProperty),
      registry.interfaceProperties root = .ok effective → registry.Requires root property →
        ∃ found ∈ effective, found.id = property ∧ found.required) ∧
    ¬ ∀ (policy : NamingPolicy) (registry next : Registry) (draft : ObjectDraft)
      (object : ObjectType) (implementation : Implementation) (property : Identifier),
      draft.define policy registry = .ok next →
        next.objectType? (policy.id draft.name) = some object →
          implementation ∈ object.implements →
            registry.Requires implementation.interface property →
              ∃ mapping ∈ implementation.mappings, mapping.interfaceProperty = property := by
  obtain ⟨hextends, hdeclares, hresolved, hdefined⟩ :
      (Fixture.registry Fixture.instrument).Extends ⟨"com.example.instrument"⟩
        ⟨"com.example.named"⟩ ∧
      (Fixture.registry Fixture.instrument).Declares ⟨"com.example.named"⟩
        (.shared ⟨"com.example.assetName"⟩ true) ∧
      ((Fixture.registry Fixture.instrument).interfaceProperties
        ⟨"com.example.instrument"⟩).toOption.map (·.all (!·.required)) = some true ∧
      (Fixture.gauge.define ⟨⟨"com.example."⟩, true⟩
        (Fixture.registry Fixture.instrument)).toOption.map (fun next ↦
          (next.objectType? ⟨"com.example.gauge"⟩).map (·.implements)) =
        some (some [⟨⟨"com.example.instrument"⟩, []⟩]) := by
    decide +kernel
  have hrequires : (Fixture.registry Fixture.instrument).Requires ⟨"com.example.instrument"⟩
      ⟨"com.example.assetName"⟩ :=
    ⟨_, ⟨_, .single hextends, hdeclares⟩, rfl, rfl⟩
  constructor
  · intro hall
    obtain ⟨effective, heffective, hoptional⟩ := exists_of_toOption_map hresolved
    obtain ⟨found, hfound, -, hrequired⟩ := hall _ _ _ _ heffective hrequires
    simpa [hrequired] using List.all_eq_true.mp hoptional found hfound
  · intro hall
    obtain ⟨next, hnext, himplements⟩ := exists_of_toOption_map hdefined
    obtain ⟨object, hobject, himplements⟩ := Option.map_eq_some_iff.mp himplements
    obtain ⟨mapping, hmapping, -⟩ := hall _ _ next _ object ⟨⟨"com.example.instrument"⟩, []⟩ _ hnext
      hobject (himplements ▸ List.mem_cons_self) hrequires
    cases hmapping

end Registry

end Ontology
