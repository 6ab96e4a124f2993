import Ontology.Registry
import Ontology.SchemaError

/-!
The effective properties of interfaces. An interface has the properties that it declares and those
of the interfaces that it extends. `Registry.interfaceProperties` walks the graph of interfaces in
depth, own properties first, and keeps the first declaration of each identifier; a later one must
agree with it on the type. The walk carries the trail of interfaces from the root to the current
one. It ends because every interface on the trail is registered and none stands there twice, so the
registered interfaces off the trail get fewer with each step down.
-/

set_option autoImplicit false
set_option relaxedAutoImplicit false

namespace Ontology

/-- Where an effective property was declared. -/
inductive PropertySource where
  /-- A shared property type. -/
  | shared
  /-- The interface that defines the property itself. -/
  | inline (interface : Identifier)
deriving DecidableEq

/-- A property that an interface has, of its own or through an interface that it extends. -/
structure EffectiveProperty where
  id : Identifier
  type : PropertyType
  displayName : String
  required : Bool
  source : PropertySource
deriving DecidableEq

namespace Registry

/-! ### One declaration -/

/-- The property that a declaration on an interface stands for. -/
def resolveProperty (registry : Registry) (interface : Identifier) :
    InterfaceProperty → Except SchemaError EffectiveProperty
  | .shared id required =>
    match registry.sharedPropertyType? id with
    | none => .error (.unknownSharedPropertyType id interface.text)
    | some shared => .ok ⟨id, shared.type, shared.displayName, required, .shared⟩
  | .inline id type displayName required =>
    .ok ⟨id, type, displayName, required, .inline interface⟩

/-- The properties found so far with one more: the first of an identifier stays, and the later ones
must have its type. -/
def mergeProperty (root : Identifier) (found : List EffectiveProperty)
    (property : EffectiveProperty) : Except SchemaError (List EffectiveProperty) :=
  match found.find? (·.id = property.id) with
  | none => .ok (found ++ [property])
  | some first =>
    if first.type = property.type then .ok found
    else .error (.conflictingPropertyType property.id root first.type property.type)

/-- The properties found so far with those that an interface declares. -/
def mergeDeclared (registry : Registry) (root id : Identifier) (found : List EffectiveProperty)
    (declared : List InterfaceProperty) : Except SchemaError (List EffectiveProperty) :=
  declared.foldlM (fun found property ↦ do
    mergeProperty root found (← registry.resolveProperty id property)) found

/-! ### The walk -/

/-- The identifiers of the registered interfaces. -/
def interfaceIds (registry : Registry) : List Identifier :=
  registry.defined.interfaceTypes.keys ++ registry.imported.interfaceTypes.keys

/-- How many registered interfaces are not on a trail. -/
def interfacesOff (registry : Registry) (trail : List Identifier) : Nat :=
  registry.interfaceIds.countP (· ∉ trail)

theorem isSome_interfaceType?_iff {registry : Registry} {id : Identifier} :
    (registry.interfaceType? id).isSome ↔ id ∈ registry.interfaceIds := by
  rw [interfaceType?, interfaceIds, List.mem_append, Option.isSome_or, Bool.or_eq_true,
    Table.isSome_get?_iff, Table.isSome_get?_iff]

theorem mem_interfaceIds {registry : Registry} {id : Identifier} {interface : InterfaceType}
    (h : registry.interfaceType? id = some interface) : id ∈ registry.interfaceIds :=
  isSome_interfaceType?_iff.mp (Option.isSome_iff_exists.mpr ⟨interface, h⟩)

theorem interfacesOff_cons_lt {registry : Registry} {id : Identifier} {trail : List Identifier}
    (hid : id ∈ registry.interfaceIds) (htrail : id ∉ trail) :
    registry.interfacesOff (id :: trail) < registry.interfacesOff trail := by
  unfold interfacesOff
  generalize registry.interfaceIds = ids at hid
  have hle (l : List Identifier) :
      l.countP (· ∉ id :: trail) ≤ l.countP (· ∉ trail) :=
    List.countP_mono_left fun x _ hx ↦ by simp_all
  induction ids with
  | nil => cases hid
  | cons head rest ih =>
    rw [List.countP_cons, List.countP_cons]
    by_cases hhead : head = id
    · have := hle rest
      rw [if_neg (by simp [hhead]), if_pos (by simp [hhead, htrail])]
      omega
    · have := ih (by simpa [Ne.symm hhead] using hid)
      have : decide (head ∉ id :: trail) = decide (head ∉ trail) := by simp [hhead]
      rw [this]
      omega

/-- The properties found so far with those of an interface and of all that it extends. The trail
names the interfaces above this one, the nearest first; the root is the interface that is asked
for. -/
def collectProperties (registry : Registry) (root : Identifier) (trail : List Identifier)
    (found : List EffectiveProperty) (id : Identifier) :
    Except SchemaError (List EffectiveProperty) :=
  if _onTrail : id ∈ trail then
    .error (.interfaceCycle root (id :: trail).reverse)
  else
    match _registered : registry.interfaceType? id with
    | none => .error (.unknownInterfaceType id ((trail.head?.map (·.text)).getD "action"))
    | some interface => do
      let found ← registry.mergeDeclared root id found interface.properties
      interface.parents.foldlM (registry.collectProperties root (id :: trail)) found
termination_by registry.interfacesOff trail
decreasing_by exact interfacesOff_cons_lt (mem_interfaceIds _registered) _onTrail

/-- The effective properties of an interface, its own first and then those of each interface that
it extends. -/
def interfaceProperties (registry : Registry) (id : Identifier) :
    Except SchemaError (List EffectiveProperty) :=
  registry.collectProperties id [] [] id

/-! ### Properties of either kind of entity -/

/-- The properties of an object type. -/
def objectProperties (registry : Registry) (id : Identifier) :
    Except SchemaError (List ObjectProperty) :=
  match registry.objectType? id with
  | none => .error (.unknownObjectType id)
  | some object => .ok object.properties

/-- The entity that owns a property. -/
inductive PropertyOwner where
  | object (id : Identifier)
  | interface (id : Identifier)

/-- The type of one property of an entity. -/
def propertyType (registry : Registry) (owner : PropertyOwner) (property : String) :
    Except SchemaError PropertyType :=
  match owner with
  | .object id => do
    match (← registry.objectProperties id).find? (·.apiName = property) with
    | none => .error (.unknownProperty property id.text)
    | some found => return found.type
  | .interface id => do
    match (← registry.interfaceProperties id).find? (·.id.text = property) with
    | none => .error (.unknownProperty property id.text)
    | some found => return found.type

end Registry

end Ontology
