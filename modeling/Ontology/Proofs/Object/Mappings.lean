import Ontology.Proofs.Inheritance.Closedness
import Ontology.Proofs.Inheritance.Requirements
import Ontology.Proofs.Registry.Built

/-!
The mappings that objects record for the interfaces which they implement. The mappings that are
written down come first, in their order. Behind them stand the implicit ones
(`Implementation.implicitMappings`): one for each effective property that is left open and that has
a property of the object backed by the shared property type of its identifier, in the order of the
effective properties. `ObjectDraft.define_complete` says what is true of an object that has been
defined.

A mapping that is written down pairs properties of one type. An implicit one goes by identifiers
alone. So a property that is declared by hand, with a shared property type behind it but another
type than this has, stands for an interface property of the wrong type, and the same happens where
an interface declares a property of its own under the identifier of a shared property type.
`ObjectDraft.define_mappingTypes` says that types are kept everywhere else.
-/

set_option autoImplicit false
set_option relaxedAutoImplicit false

namespace Ontology

open Outcome

/-! ### Effective properties -/

namespace Registry

variable {registry : Registry} {id : Identifier} {effective : List EffectiveProperty}

/-- An effective property that comes from a shared property type has the type of this. -/
theorem type_of_shared {property : EffectiveProperty}
    (h : registry.interfaceProperties id = .ok effective) (hmem : property ∈ effective)
    (hsource : property.source = .shared) :
    ∃ shared, registry.sharedPropertyType? property.id = some shared ∧
      shared.type = property.type := by
  obtain ⟨flattened, hflattened, -, rfl⟩ := interfaceProperties_eq_ok_iff.mp h
  have hfirst := mem_firstOfEach_iff.mp hmem
  obtain ⟨_, declaration, -, hstands⟩ :=
    hflattened.exists_declaredFrom (List.mem_of_find?_eq_some hfirst)
  cases hstands with
  | shared htype => exact ⟨_, htype, rfl⟩
  | inline => cases hsource

/-- Interfaces do not depend on object types. -/
theorem interfaceProperties_registerObject (registry : Registry) (object : ObjectType)
    (id : Identifier) :
    (registry.register (.objectType object)).interfaceProperties id =
      registry.interfaceProperties id :=
  collectProperties_congr (fun _ _ ↦ rfl) (fun _ _ _ ↦ rfl) .refl

end Registry

/-! ### Implementations -/

/-- A mapping stands between an effective property and a property of an object of the same type. -/
def PropertyMapping.KeepsType (properties : List ObjectProperty)
    (effective : List EffectiveProperty) (mapping : PropertyMapping) : Prop :=
  ∃ expected ∈ effective, expected.id = mapping.interfaceProperty ∧
    ∃ actual ∈ properties, actual.apiName = mapping.objectProperty ∧ actual.type = expected.type

instance (properties : List ObjectProperty) (effective : List EffectiveProperty)
    (mapping : PropertyMapping) : Decidable (mapping.KeepsType properties effective) :=
  inferInstanceAs (Decidable (∃ expected ∈ effective, expected.id = mapping.interfaceProperty ∧
    ∃ actual ∈ properties, actual.apiName = mapping.objectProperty ∧ actual.type = expected.type))

namespace Implementation

variable {registry : Registry} {object interface : Identifier}
  {properties : List ObjectProperty} {written mappings completed : List PropertyMapping}
  {expected : EffectiveProperty} {effective : List EffectiveProperty}
  {implementation : Implementation}

/-- The mappings that are written down leave an effective property open, and a property of the
object is the first that its shared property type stands behind. -/
def Backs (properties : List ObjectProperty) (written : List PropertyMapping)
    (expected : EffectiveProperty) (backing : ObjectProperty) : Prop :=
  ¬ MapsProperty written expected.id ∧
    properties.find? (·.sharedPropertyType = some expected.id) = some backing

/-- The mapping that a shared property type gives to an effective property which is left open. -/
def implicitMapping? (properties : List ObjectProperty) (written : List PropertyMapping)
    (expected : EffectiveProperty) : Option PropertyMapping :=
  if written.any (·.interfaceProperty = expected.id) then none
  else
    (properties.find? (·.sharedPropertyType = some expected.id)).map fun backing ↦
      ⟨expected.id, backing.apiName⟩

/-- The mappings that shared property types give to effective properties, in the order of these. -/
def implicitMappings (properties : List ObjectProperty) (written : List PropertyMapping)
    (effective : List EffectiveProperty) : List PropertyMapping :=
  effective.filterMap (implicitMapping? properties written)

/-- An implementation records the mappings that are written down and then the implicit ones. All of
them stand between properties that exist, and every required property has one. -/
structure Complete (properties : List ObjectProperty) (effective : List EffectiveProperty)
    (written : List PropertyMapping) (implementation : Implementation) : Prop where
  mappings : implementation.mappings = written ++ implicitMappings properties written effective
  interfaceProperty : ∀ mapping ∈ implementation.mappings,
    mapping.interfaceProperty ∈ effective.map (·.id)
  objectProperty : ∀ mapping ∈ implementation.mappings,
    mapping.objectProperty ∈ properties.map (·.apiName)
  required : ∀ expected ∈ effective, expected.required →
    ∃ mapping ∈ implementation.mappings, mapping.interfaceProperty = expected.id

theorem implicitMapping?_eq_some_iff {mapping : PropertyMapping} :
    implicitMapping? properties written expected = some mapping ↔
      ∃ backing, Backs properties written expected backing ∧
        ⟨expected.id, backing.apiName⟩ = mapping := by
  simp only [implicitMapping?, Option.ite_none_left_eq_some, Option.map_eq_some_iff, Backs,
    MapsProperty, List.any_eq_true, decide_eq_true_eq, and_assoc, exists_and_left]

theorem mem_implicitMappings_iff {mapping : PropertyMapping} :
    mapping ∈ implicitMappings properties written effective ↔
      ∃ expected ∈ effective, ∃ backing, Backs properties written expected backing ∧
        ⟨expected.id, backing.apiName⟩ = mapping := by
  simp only [implicitMappings, List.mem_filterMap, implicitMapping?_eq_some_iff]

/-- What one step adds to the mappings is the implicit one. -/
theorem eq_append_implicitMapping?
    (h : completeMapping object interface properties mappings expected = .ok completed) :
    completed = mappings ++ (implicitMapping? properties mappings expected).toList := by
  have hany : mappings.any (·.interfaceProperty = expected.id) = true ↔
      MapsProperty mappings expected.id := by
    simp [MapsProperty]
  rw [implicitMapping?]
  rcases completeMapping_eq_ok_iff.mp h with
    ⟨hmapped, rfl⟩ | ⟨hopen, ⟨backing, hbacking, rfl⟩ | ⟨hnone, -, rfl⟩⟩
  · rw [if_pos (hany.mpr hmapped), Option.toList_none, List.append_nil]
  · rw [if_neg (mt hany.mp hopen), hbacking]
    rfl
  · rw [if_neg (mt hany.mp hopen), hnone, Option.map_none, Option.toList_none, List.append_nil]

/-- What a step adds for one property leaves the implicit mappings of the others as they are. -/
theorem implicitMappings_append
    (hother : ∀ other ∈ effective, other.id ≠ expected.id) :
    implicitMappings properties (mappings ++ (implicitMapping? properties mappings expected).toList)
      effective = implicitMappings properties mappings effective := by
  cases hadded : implicitMapping? properties mappings expected with
  | none => rw [Option.toList_none, List.append_nil]
  | some mapping =>
    obtain ⟨backing, -, rfl⟩ := implicitMapping?_eq_some_iff.mp hadded
    refine List.filterMap_congr fun other hmem ↦ ?_
    have hne : expected.id ≠ other.id := (hother other hmem).symm
    simp [implicitMapping?, hne]

/-- Completing the mappings adds the implicit ones behind them. -/
theorem eq_append_implicitMappings (hdistinct : (effective.map (·.id)).Nodup)
    (h : effective.foldlM (completeMapping object interface properties) mappings = .ok completed) :
    completed = mappings ++ implicitMappings properties mappings effective := by
  induction effective generalizing mappings with
  | nil =>
    cases h
    exact (List.append_nil _).symm
  | cons expected rest ih =>
    rw [List.map_cons, List.nodup_cons] at hdistinct
    rw [List.foldlM_cons, bind_eq_ok_iff] at h
    obtain ⟨next, hnext, hcompleted⟩ := h
    obtain rfl := eq_append_implicitMapping? hnext
    -- No other property goes by this identifier, so what is added for it opens or closes none.
    have hother : ∀ other ∈ rest, other.id ≠ expected.id :=
      fun other hmem hid ↦ hdistinct.1 (List.mem_map.mpr ⟨other, hmem, hid⟩)
    rw [ih hdistinct.2 hcompleted, implicitMappings_append hother, List.append_assoc]
    congr 1
    rw [implicitMappings, implicitMappings, List.filterMap_cons]
    cases implicitMapping? properties mappings expected <;> rfl

/-- A mapping that is written down passes when it pairs properties of one type. -/
theorem checkMapping_eq_ok_iff {mapping : PropertyMapping} :
    checkMapping object interface properties effective mapping = .ok () ↔
      ∃ expected, effective.find? (·.id = mapping.interfaceProperty) = some expected ∧
        ∃ actual, properties.find? (·.apiName = mapping.objectProperty) = some actual ∧
          actual.type = expected.type := by
  unfold checkMapping
  cases hexpected : effective.find? (·.id = mapping.interfaceProperty) with
  | none => simp
  | some expected =>
    cases hactual : properties.find? (·.apiName = mapping.objectProperty) with
    | none => simp
    | some actual =>
      by_cases htype : actual.type = expected.type
      · simp [htype]
      · simp [htype, Ne.symm htype]

theorem keepsType_of_checkMapping {mapping : PropertyMapping}
    (h : checkMapping object interface properties effective mapping = .ok ()) :
    mapping.KeepsType properties effective := by
  obtain ⟨expected, hexpected, actual, hactual, htype⟩ := checkMapping_eq_ok_iff.mp h
  refine ⟨expected, List.mem_of_find?_eq_some hexpected, by simpa using List.find?_some hexpected,
    actual, List.mem_of_find?_eq_some hactual, by simpa using List.find?_some hactual, htype⟩

/-- What has been recorded when an implementation is resolved. -/
theorem complete_of_resolve (h : resolve registry object interface properties written =
    .ok implementation) :
    implementation.interface = interface ∧
      ∃ effective, registry.interfaceProperties interface = .ok effective ∧
        (∀ mapping ∈ written, mapping.KeepsType properties effective) ∧
        implementation.Complete properties effective written := by
  obtain ⟨effective, heffective, hwritten, completed, hcompleted, rfl⟩ := resolve_eq_ok_iff.mp h
  have hkeeps : ∀ mapping ∈ written, mapping.KeepsType properties effective :=
    fun mapping hmapping ↦ keepsType_of_checkMapping (hwritten mapping hmapping)
  have hmappings := eq_append_implicitMappings (Registry.nodup_of_interfaceProperties heffective)
    hcompleted
  refine ⟨rfl, effective, heffective, hkeeps, hmappings, fun mapping hmapping ↦ ?_,
    fun mapping hmapping ↦ ?_, (mapsProperty_of_complete hcompleted).2⟩
  · rcases List.mem_append.mp (hmappings ▸ hmapping) with hmapping | hmapping
    · obtain ⟨expected, hexpected, hid, -⟩ := hkeeps mapping hmapping
      exact List.mem_map.mpr ⟨expected, hexpected, hid⟩
    · obtain ⟨expected, hexpected, backing, -, rfl⟩ := mem_implicitMappings_iff.mp hmapping
      exact List.mem_map_of_mem hexpected
  · rcases List.mem_append.mp (hmappings ▸ hmapping) with hmapping | hmapping
    · obtain ⟨-, -, -, actual, hactual, hname, -⟩ := hkeeps mapping hmapping
      exact List.mem_map.mpr ⟨actual, hactual, hname⟩
    · obtain ⟨expected, -, backing, ⟨-, hbacking⟩, rfl⟩ := mem_implicitMappings_iff.mp hmapping
      exact List.mem_map_of_mem (List.mem_of_find?_eq_some hbacking)

/-- An implicit mapping keeps the type when the property behind it has this type. -/
theorem Backs.keepsType_iff {backing : ObjectProperty}
    (hbacks : Backs properties written expected backing)
    (hnames : (properties.map (·.apiName)).Nodup) (hids : (effective.map (·.id)).Nodup)
    (hexpected : expected ∈ effective) :
    PropertyMapping.KeepsType properties effective ⟨expected.id, backing.apiName⟩ ↔
      backing.type = expected.type := by
  have hbacking := List.mem_of_find?_eq_some hbacks.2
  constructor
  · rintro ⟨other, hother, hid, actual, hactual, hname, htype⟩
    obtain rfl := List.inj_on_of_nodup_map hids hother hexpected hid
    obtain rfl := List.inj_on_of_nodup_map hnames hactual hbacking hname
    exact htype
  · intro htype
    exact ⟨expected, hexpected, rfl, backing, hbacking, rfl, htype⟩

/-- All mappings keep types when the implicit ones do. -/
theorem Complete.keepsType_iff (h : implementation.Complete properties effective written)
    (hwritten : ∀ mapping ∈ written, mapping.KeepsType properties effective)
    (hnames : (properties.map (·.apiName)).Nodup) (hids : (effective.map (·.id)).Nodup) :
    (∀ mapping ∈ implementation.mappings, mapping.KeepsType properties effective) ↔
      ∀ expected ∈ effective, ∀ backing, Backs properties written expected backing →
        backing.type = expected.type := by
  rw [h.mappings, List.forall_mem_append, and_iff_right hwritten]
  constructor
  · intro hkeeps expected hexpected backing hbacks
    have hmapping := mem_implicitMappings_iff.mpr ⟨expected, hexpected, backing, hbacks, rfl⟩
    exact (hbacks.keepsType_iff hnames hids hexpected).mp (hkeeps _ hmapping)
  · intro htypes mapping hmapping
    obtain ⟨expected, hexpected, backing, hbacks, rfl⟩ := mem_implicitMappings_iff.mp hmapping
    exact (hbacks.keepsType_iff hnames hids hexpected).mpr
      (htypes expected hexpected backing hbacks)

end Implementation

/-! ### Object types -/

/-- The mappings that are written down, with all names qualified. -/
def ImplementationDraft.written (policy : NamingPolicy) (draft : ImplementationDraft) :
    List PropertyMapping :=
  draft.mappings.map fun (interfaceProperty, objectProperty) ↦
    ⟨policy.id interfaceProperty, objectProperty⟩

variable {policy : NamingPolicy} {registry next : Registry}

namespace ObjectDraft

variable {draft : ObjectDraft} {object : ObjectType}

theorem get?_of_register (h : draft.build policy registry = .ok object) :
    (registry.register (.objectType object)).defined.objectTypes.get? (policy.id draft.name) =
      some object := by
  rw [← build_id h, Registry.register, EntityStore.insert, Table.get?_insert, if_pos rfl]

/-- What has been settled about an object that is built. -/
theorem complete_of_build (h : draft.build policy registry = .ok object) :
    object.primaryKey ∈ object.propertyNames ∧ object.titleProperty ∈ object.propertyNames ∧
      (∀ property ∈ object.properties, ∃ drafted ∈ draft.properties,
        drafted.build policy registry object.id = .ok property) ∧
      List.Forall₂ (fun written implementation ↦
          Implementation.resolve registry object.id (policy.id written.interface)
            object.properties (written.written policy) = .ok implementation)
        draft.implements object.implements := by
  obtain ⟨-, -, properties, hproperties, primaryKey, -, hkey, htitle, implementations, hresolved,
    rfl⟩ := build_eq_ok_iff.mp h
  refine ⟨hkey, htitle, fun property hproperty ↦ ?_, hresolved⟩
  exact exists_of_mem_mapM (ObjectPropertyDraft.buildAll_eq_ok_iff.mp hproperties).2 hproperty

/-- An object that has been defined has properties of distinct names, the primary key and the title
among them. Of every interface that it implements it maps the required properties; its mappings are
those that are written down and then the implicit ones, and all of them stand between properties
that exist. -/
theorem define_complete (h : draft.define policy registry = .ok next) :
    ∃ object, next.defined.objectTypes.get? (policy.id draft.name) = some object ∧
      object.propertyNames.Nodup ∧ object.primaryKey ∈ object.propertyNames ∧
      object.titleProperty ∈ object.propertyNames ∧
      List.Forall₂ (fun written implementation ↦
          implementation.interface = policy.id written.interface ∧
          ∃ effective, next.interfaceProperties implementation.interface = .ok effective ∧
            implementation.Complete object.properties effective (written.written policy))
        draft.implements object.implements := by
  obtain ⟨object, hbuild, rfl⟩ := define_eq_ok_iff.mp h
  obtain ⟨hkey, htitle, -, hresolved⟩ := complete_of_build hbuild
  refine ⟨object, get?_of_register hbuild, build_nodup hbuild, hkey, htitle,
    hresolved.imp fun written implementation hresolve ↦ ?_⟩
  obtain ⟨hinterface, effective, heffective, -, hcomplete⟩ :=
    Implementation.complete_of_resolve hresolve
  refine ⟨hinterface, effective, ?_, hcomplete⟩
  rw [Registry.interfaceProperties_registerObject, hinterface, heffective]

end ObjectDraft

/-- An object that implements `asset`. Its serial number is mapped by hand, and its name through the
shared property type behind the label. -/
def Fixture.valve : ObjectDraft where
  name := .auto "valve"
  primaryKey := some "code"
  properties := [property "code" text, .shared "label" (.auto "assetName")]
  implements := [{ interface := .auto "asset", mappings := [(.auto "serialNumber", "code")] }]

/-- An object that implements `asset` with a whole number in front of the shared property type of
serial numbers, which are texts. -/
def Fixture.meter : ObjectDraft where
  name := .auto "meter"
  primaryKey := some "label"
  properties :=
    [.shared "label" (.auto "assetName"),
      .declared
        { apiName := "serial"
          type := .scalar .integer
          displayName := "Serial"
          description := none
          sharedPropertyType := some ⟨"com.example.serialNumber"⟩ }]
  implements := [{ interface := .auto "asset" }]

namespace ObjectDraft

variable {draft : ObjectDraft} {object : ObjectType}

/-- A valve and a meter are accepted as assets. An asset has shared properties only, but a meter
does not keep their types. -/
theorem define_valve_meter :
    (Fixture.valve.define ⟨⟨"com.example."⟩, true⟩
      (Fixture.registry Fixture.asset)).toOption.map (fun next ↦
        (next.defined.objectTypes.get? ⟨"com.example.valve"⟩).map fun object ↦
          object.implements.map fun implementation ↦
            (next.interfaceProperties implementation.interface).toOption.map fun effective ↦
              decide (∀ expected ∈ effective, expected.source = .shared)) =
      some (some [some true]) ∧
    (Fixture.meter.define ⟨⟨"com.example."⟩, true⟩
      (Fixture.registry Fixture.asset)).toOption.map (fun next ↦
        (next.defined.objectTypes.get? ⟨"com.example.meter"⟩).map fun object ↦
          object.implements.map fun implementation ↦
            (next.interfaceProperties implementation.interface).toOption.map fun effective ↦
              decide (∀ mapping ∈ implementation.mappings,
                mapping.KeepsType object.properties effective)) =
      some (some [some false]) := by
  decide +kernel

/-- A valve maps its serial number by hand and its name through the shared property type. -/
theorem define_complete_valve :
    ∃ next, Fixture.valve.define ⟨⟨"com.example."⟩, true⟩ (Fixture.registry Fixture.asset) =
        .ok next ∧
      ∃ object, next.defined.objectTypes.get? ⟨"com.example.valve"⟩ = some object ∧
        ∃ implementation ∈ object.implements, ∃ effective,
          next.interfaceProperties implementation.interface = .ok effective ∧
            implementation.Complete object.properties effective
              [⟨⟨"com.example.serialNumber"⟩, "code"⟩] := by
  obtain ⟨next, hnext, -⟩ := exists_of_toOption_map define_valve_meter.1
  obtain ⟨object, hobject, -, -, -, himplements⟩ := define_complete hnext
  obtain ⟨implementation, himplementation, -, effective, heffective, hcomplete⟩ :=
    exists_of_mem_forall₂ himplements.flip (List.mem_singleton_self _)
  exact ⟨next, hnext, object, hobject, implementation, himplementation, effective, heffective,
    hcomplete⟩

/-! ### Types of mapped properties -/

/-- An implicit mapping keeps the type unless the object's property is declared by hand or the
interface declares the property on its own. -/
theorem declared_or_inline_of_backs {interface : Identifier} {effective : List EffectiveProperty}
    {expected : EffectiveProperty} {written : List PropertyMapping} {backing : ObjectProperty}
    (h : draft.build policy registry = .ok object)
    (heffective : registry.interfaceProperties interface = .ok effective)
    (hexpected : expected ∈ effective)
    (hbacks : Implementation.Backs object.properties written expected backing)
    (hne : backing.type ≠ expected.type) :
    .declared backing ∈ draft.properties ∨ ∃ declarer, expected.source = .inline declarer := by
  cases hsource : expected.source with
  | inline declarer => exact .inr ⟨declarer, rfl⟩
  | shared =>
    refine .inl ?_
    obtain ⟨-, -, hdrafts, -⟩ := complete_of_build h
    obtain ⟨drafted, hdrafted, hbuilt⟩ := hdrafts backing (List.mem_of_find?_eq_some hbacks.2)
    cases drafted with
    | declared property =>
      cases hbuilt
      exact hdrafted
    | shared apiName name =>
      -- Both types are that of the shared property type under the identifier.
      obtain ⟨shared, hshared, htype⟩ :=
        Registry.type_of_shared heffective hexpected hsource
      have hbehind : backing.sharedPropertyType = some expected.id := by
        simpa using List.find?_some hbacks.2
      rw [ObjectPropertyDraft.build] at hbuilt
      split at hbuilt
      · cases hbuilt
      · next behind hfound =>
        cases hbuilt
        rw [Option.some.inj hbehind, hshared] at hfound
        cases hfound
        exact absurd htype hne

/-- Of an object that has been defined, the mappings that are written down keep types. All mappings
for an interface do exactly when every property that backs an effective property of it has the type
of the latter, and where it has not, it is declared by hand or the interface declares the property
on its own. -/
theorem define_mappingTypes (h : draft.define policy registry = .ok next) :
    ∃ object, next.defined.objectTypes.get? (policy.id draft.name) = some object ∧
      List.Forall₂ (fun written implementation ↦
          ∃ effective, next.interfaceProperties implementation.interface = .ok effective ∧
            (∀ mapping ∈ written.written policy,
              mapping.KeepsType object.properties effective) ∧
            ((∀ mapping ∈ implementation.mappings,
                mapping.KeepsType object.properties effective) ↔
              ∀ expected ∈ effective, ∀ backing,
                Implementation.Backs object.properties (written.written policy) expected backing →
                  backing.type = expected.type) ∧
            ∀ expected ∈ effective, ∀ backing,
              Implementation.Backs object.properties (written.written policy) expected backing →
                backing.type ≠ expected.type →
                  .declared backing ∈ draft.properties ∨
                    ∃ declarer, expected.source = .inline declarer)
        draft.implements object.implements := by
  obtain ⟨object, hbuild, rfl⟩ := define_eq_ok_iff.mp h
  obtain ⟨-, -, -, hresolved⟩ := complete_of_build hbuild
  refine ⟨object, get?_of_register hbuild, hresolved.imp fun written implementation hresolve ↦ ?_⟩
  obtain ⟨hinterface, effective, heffective, hwritten, hcomplete⟩ :=
    Implementation.complete_of_resolve hresolve
  refine ⟨effective, ?_, hwritten, ?_, ?_⟩
  · rw [Registry.interfaceProperties_registerObject, hinterface, heffective]
  · exact hcomplete.keepsType_iff hwritten (build_nodup hbuild)
      (Registry.nodup_of_interfaceProperties heffective)
  · intro expected hexpected backing hbacks hne
    exact declared_or_inline_of_backs hbuild heffective hexpected hbacks hne

/-- All mappings of a valve keep types: what backs a property of the interface takes its type from
the shared property type. -/
theorem define_mappingTypes_valve :
    ∃ next, Fixture.valve.define ⟨⟨"com.example."⟩, true⟩ (Fixture.registry Fixture.asset) =
        .ok next ∧
      ∃ object, next.defined.objectTypes.get? ⟨"com.example.valve"⟩ = some object ∧
        ∃ implementation ∈ object.implements, ∃ effective,
          next.interfaceProperties implementation.interface = .ok effective ∧
            ∀ mapping ∈ implementation.mappings,
              mapping.KeepsType object.properties effective := by
  obtain ⟨next, hnext, hview⟩ := exists_of_toOption_map define_valve_meter.1
  obtain ⟨object, hobject, himplements⟩ := define_mappingTypes hnext
  obtain ⟨implementation, himplementation, effective, heffective, -, hkeeps, hdeparts⟩ :=
    exists_of_mem_forall₂ himplements.flip (List.mem_singleton_self _)
  have hshared : ∀ expected ∈ effective, expected.source = .shared := by
    obtain ⟨found, hfound, hview⟩ := Option.map_eq_some_iff.mp hview
    cases hobject.symm.trans hfound
    obtain ⟨only, honly, hview⟩ := List.map_eq_singleton_iff.mp hview
    obtain rfl := List.mem_singleton.mp (honly ▸ himplementation)
    obtain ⟨computed, hcomputed, hview⟩ := exists_of_toOption_map hview
    cases heffective.symm.trans hcomputed
    exact of_decide_eq_true hview
  refine ⟨next, hnext, object, hobject, implementation, himplementation, effective, heffective,
    hkeeps.mpr fun expected hexpected backing hbacks ↦ ?_⟩
  by_contra hne
  rcases hdeparts expected hexpected backing hbacks hne with hdeclared | ⟨declarer, hinline⟩
  · have hbehind := List.find?_some hbacks.2
    simp [Fixture.valve, Fixture.property] at hdeclared
    simp [hdeclared] at hbehind
  · cases (hshared expected hexpected).symm.trans hinline

/-- A meter stands with a whole number for a serial number, which is a text. -/
theorem not_forall_mappings_keepType :
    ¬ ∀ (policy : NamingPolicy) (registry next : Registry) (draft : ObjectDraft)
      (object : ObjectType) (implementation : Implementation)
      (effective : List EffectiveProperty),
      draft.define policy registry = .ok next →
        next.defined.objectTypes.get? (policy.id draft.name) = some object →
          implementation ∈ object.implements →
            next.interfaceProperties implementation.interface = .ok effective →
              ∀ mapping ∈ implementation.mappings,
                mapping.KeepsType object.properties effective := by
  intro hall
  obtain ⟨next, hnext, hview⟩ := exists_of_toOption_map define_valve_meter.2
  obtain ⟨object, hobject, hview⟩ := Option.map_eq_some_iff.mp hview
  obtain ⟨implementation, hsingle, hview⟩ := List.map_eq_singleton_iff.mp hview
  obtain ⟨effective, heffective, hview⟩ := exists_of_toOption_map hview
  have himplementation : implementation ∈ object.implements :=
    hsingle ▸ List.mem_singleton_self _
  exact of_decide_eq_false hview
    (hall _ _ next _ object implementation effective hnext hobject himplementation heffective)

end ObjectDraft

end Ontology
