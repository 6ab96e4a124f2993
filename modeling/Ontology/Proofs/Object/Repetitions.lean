import Ontology.Proofs.Object.Mappings

/-!
What an object names more than once. The implicit mappings of an implementation stand for different
interface properties, and for none that is mapped by hand, so an interface property is mapped twice
exactly when two mappings for it are written down. Nothing looks at this, nor at whether an
interface is implemented twice: an object repeats what its author repeats
(`ObjectDraft.define_mapsOnce_iff`), and one interface property may stand for several properties of
the object (`ObjectDraft.not_forall_mapsOnce`).
-/

set_option autoImplicit false
set_option relaxedAutoImplicit false

namespace Ontology

open Outcome

/-! ### Mappings -/

namespace Implementation

variable {properties : List ObjectProperty} {written : List PropertyMapping}
  {effective : List EffectiveProperty} {implementation : Implementation}

/-- No two mappings stand for the same interface property. -/
def MapsOnce (mappings : List PropertyMapping) : Prop :=
  (mappings.map (·.interfaceProperty)).Nodup

instance (mappings : List PropertyMapping) : Decidable (MapsOnce mappings) :=
  inferInstanceAs (Decidable (mappings.map (·.interfaceProperty)).Nodup)

/-- The implicit mappings stand for some of the effective properties, in the order of these. -/
theorem sublist_implicitMappings (properties : List ObjectProperty)
    (written : List PropertyMapping) (effective : List EffectiveProperty) :
    ((implicitMappings properties written effective).map (·.interfaceProperty)).Sublist
      (effective.map (·.id)) := by
  induction effective with
  | nil => exact .slnil
  | cons expected rest ih =>
    rw [implicitMappings, List.filterMap_cons]
    cases hmapping : implicitMapping? properties written expected with
    | none => exact ih.cons _
    | some mapping =>
      obtain ⟨backing, -, rfl⟩ := implicitMapping?_eq_some_iff.mp hmapping
      exact ih.cons_cons _

/-- What is mapped more than once is written down more than once. -/
theorem Complete.mapsOnce_iff (h : implementation.Complete properties effective written)
    (hids : (effective.map (·.id)).Nodup) :
    MapsOnce implementation.mappings ↔ MapsOnce written := by
  have himplicit : MapsOnce (implicitMappings properties written effective) :=
    hids.sublist (sublist_implicitMappings properties written effective)
  have hapart : ∀ id ∈ written.map (·.interfaceProperty),
      ∀ other ∈ (implicitMappings properties written effective).map (·.interfaceProperty),
        id ≠ other := by
    rintro _ hmapped id hadded rfl
    obtain ⟨mapping, hmapping, rfl⟩ := List.mem_map.mp hadded
    obtain ⟨expected, -, backing, ⟨hopen, -⟩, rfl⟩ := mem_implicitMappings_iff.mp hmapping
    obtain ⟨earlier, hearlier, hsame⟩ := List.mem_map.mp hmapped
    exact hopen ⟨earlier, hearlier, hsame⟩
  rw [MapsOnce, h.mappings, List.map_append, List.nodup_append]
  exact ⟨fun hnodup ↦ hnodup.1, fun hwritten ↦ ⟨hwritten, himplicit, hapart⟩⟩

end Implementation

/-! ### Objects -/

/-- The interfaces that an object implements, in order. -/
def ObjectType.interfaces (object : ObjectType) : List Identifier :=
  object.implements.map (·.interface)

namespace ObjectDraft

variable {policy : NamingPolicy} {registry next : Registry} {draft : ObjectDraft}

/-- The interfaces that are written down, in order. -/
def interfaces (policy : NamingPolicy) (draft : ObjectDraft) : List Identifier :=
  draft.implements.map fun written ↦ policy.id written.interface

/-- An object that has been defined implements the interfaces that are written down, in their order
and as often. Of each of them it maps a property more than once exactly when more than one mapping
for a property is written down. -/
theorem define_mapsOnce_iff (h : draft.define policy registry = .ok next) :
    ∃ object, next.defined.objectTypes.get? (policy.id draft.name) = some object ∧
      object.interfaces = draft.interfaces policy ∧
      List.Forall₂ (fun written implementation ↦
          Implementation.MapsOnce implementation.mappings ↔
            Implementation.MapsOnce (written.written policy))
        draft.implements object.implements := by
  obtain ⟨object, hbuild, rfl⟩ := define_eq_ok_iff.mp h
  obtain ⟨-, -, -, hresolved⟩ := complete_of_build hbuild
  refine ⟨object, get?_of_register hbuild, ?_, ?_⟩
  · rw [ObjectType.interfaces, interfaces, ← List.forall₂_eq_eq_eq, List.forall₂_map_left_iff,
      List.forall₂_map_right_iff]
    exact hresolved.flip.imp fun implementation written hresolve ↦
      (Implementation.complete_of_resolve hresolve).1
  · refine hresolved.imp fun written implementation hresolve ↦ ?_
    obtain ⟨-, effective, heffective, -, hcomplete⟩ := Implementation.complete_of_resolve hresolve
    exact hcomplete.mapsOnce_iff (Registry.nodup_of_interfaceProperties heffective)

/-- A valve maps its serial number by hand and its name implicitly, each of them once. -/
theorem define_mapsOnce_iff_valve :
    ∃ next, Fixture.valve.define ⟨⟨"com.example."⟩, true⟩ (Fixture.registry Fixture.asset) =
        .ok next ∧
      ∃ object, next.defined.objectTypes.get? ⟨"com.example.valve"⟩ = some object ∧
        object.interfaces = [⟨"com.example.asset"⟩] ∧
        ∃ implementation ∈ object.implements,
          Implementation.MapsOnce implementation.mappings := by
  obtain ⟨next, hnext, -⟩ := exists_of_toOption_map define_valve_meter.1
  obtain ⟨object, hobject, hinterfaces, himplements⟩ := define_mapsOnce_iff hnext
  obtain ⟨implementation, himplementation, hmapsOnce⟩ :=
    exists_of_mem_forall₂ himplements.flip (List.mem_singleton_self _)
  exact ⟨next, hnext, object, hobject, hinterfaces, implementation, himplementation,
    hmapsOnce.mpr (by decide)⟩

/-- From an object that has been computed to the definition that it comes from. -/
theorem exists_of_define_map {α : Type} {id : Identifier} {view : ObjectType → α} {result : α}
    (h : (draft.define policy registry).toOption.map (fun next ↦
      (next.defined.objectTypes.get? id).map view) = some (some result)) :
    ∃ next object, draft.define policy registry = .ok next ∧
      next.defined.objectTypes.get? id = some object ∧ view object = result := by
  obtain ⟨next, hnext, hview⟩ := exists_of_toOption_map h
  obtain ⟨object, hobject, hresult⟩ := Option.map_eq_some_iff.mp hview
  exact ⟨next, object, hnext, hobject, hresult⟩

end ObjectDraft

/-- An object with a code and a plate, either of which may stand for a serial number. -/
def Fixture.tank (implements : List ImplementationDraft) : ObjectDraft where
  name := .auto "tank"
  primaryKey := some "code"
  properties :=
    [property "code" text, property "plate" text, .shared "label" (.auto "assetName")]
  implements

namespace ObjectDraft

/-- A tank maps its serial number to the code and to the plate, in one implementation or in two. -/
theorem not_forall_mapsOnce :
    (¬ ∀ (policy : NamingPolicy) (registry next : Registry) (draft : ObjectDraft)
      (object : ObjectType), draft.define policy registry = .ok next →
        next.defined.objectTypes.get? (policy.id draft.name) = some object →
          ∀ implementation ∈ object.implements,
            Implementation.MapsOnce implementation.mappings) ∧
    ¬ ∀ (policy : NamingPolicy) (registry next : Registry) (draft : ObjectDraft)
      (object : ObjectType), draft.define policy registry = .ok next →
        next.defined.objectTypes.get? (policy.id draft.name) = some object →
          object.interfaces.Nodup := by
  let byCode : Name × String := (.auto "serialNumber", "code")
  let byPlate : Name × String := (.auto "serialNumber", "plate")
  obtain ⟨honce, htwice⟩ :
      ((Fixture.tank [⟨.auto "asset", [byCode, byPlate]⟩]).define
        ⟨⟨"com.example."⟩, true⟩ (Fixture.registry Fixture.asset)).toOption.map (fun next ↦
          (next.defined.objectTypes.get? ⟨"com.example.tank"⟩).map fun object ↦
            decide (∀ implementation ∈ object.implements,
              Implementation.MapsOnce implementation.mappings)) = some (some false) ∧
      ((Fixture.tank [⟨.auto "asset", [byCode]⟩, ⟨.auto "asset", [byPlate]⟩]).define
        ⟨⟨"com.example."⟩, true⟩ (Fixture.registry Fixture.asset)).toOption.map (fun next ↦
          (next.defined.objectTypes.get? ⟨"com.example.tank"⟩).map fun object ↦
            decide object.interfaces.Nodup) = some (some false) := by
    decide +kernel
  constructor
  · intro hall
    obtain ⟨next, object, hnext, hobject, hview⟩ := exists_of_define_map honce
    exact of_decide_eq_false hview (hall _ _ next _ object hnext hobject)
  · intro hall
    obtain ⟨next, object, hnext, hobject, hview⟩ := exists_of_define_map htwice
    exact of_decide_eq_false hview (hall _ _ next _ object hnext hobject)

end ObjectDraft

end Ontology
