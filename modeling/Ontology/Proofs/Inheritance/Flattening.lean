import Ontology.Proofs.Outcome
import Ontology.Inheritance
import Mathlib.Logic.Relation
import Mathlib.Tactic.Choose

/-!
What an interface inherits, said without a walk. `Registry.Extends` is the graph of interfaces and
`Registry.Reaches` the paths in it. `Registry.Flattening` lists the properties of an interface and
of all that it extends, its own first and then those of each parent in turn; what is reached along
two paths is listed twice. An interface has a flattening only when everything that it reaches is
registered and lies on no cycle, and all shared property types that are referred to are registered.
`Registry.Coherent` asks for this and for declarations that agree on the types of properties;
`coherent_iff_flattening` says that a flattening in which the types agree is the same thing.
-/

set_option autoImplicit false
set_option relaxedAutoImplicit false

namespace Ontology

open Outcome Relation

/-- The type that a declaration on an interface gives to its property, if it gives one. -/
def InterfaceProperty.type? (registry : Registry) : InterfaceProperty → Option PropertyType
  | .shared id _ => (registry.sharedPropertyType? id).map (·.type)
  | .inline _ type _ _ => some type

namespace Registry

variable {registry : Registry} {root id : Identifier} {interface : InterfaceType}
  {declaration : InterfaceProperty} {property : EffectiveProperty}
  {flattened : List EffectiveProperty}

/-! ### The graph of interfaces -/

/-- A registered interface names another one as a parent. -/
def Extends (registry : Registry) (child parent : Identifier) : Prop :=
  ∃ interface, registry.interfaceType? child = some interface ∧ parent ∈ interface.parents

/-- A registered interface declares a property. -/
def Declares (registry : Registry) (id : Identifier) (declaration : InterfaceProperty) : Prop :=
  ∃ interface, registry.interfaceType? id = some interface ∧ declaration ∈ interface.properties

instance (child parent : Identifier) : Decidable (registry.Extends child parent) :=
  decidable_of_iff ((registry.interfaceType? child).any (parent ∈ ·.parents)) <| by
    simp [Extends, Option.any_eq_true]

instance (id : Identifier) (declaration : InterfaceProperty) :
    Decidable (registry.Declares id declaration) :=
  decidable_of_iff ((registry.interfaceType? id).any (declaration ∈ ·.properties)) <| by
    simp [Declares, Option.any_eq_true]

/-- An interface is another one or extends it, directly or through others. -/
def Reaches (registry : Registry) : Identifier → Identifier → Prop :=
  ReflTransGen registry.Extends

/-- A declaration stands on an interface that is reached from the root. -/
def DeclaredFrom (registry : Registry) (root : Identifier) (declaration : InterfaceProperty) :
    Prop :=
  ∃ id, registry.Reaches root id ∧ registry.Declares id declaration

theorem Reaches.head {child parent ancestor : Identifier} (hextends : registry.Extends child parent)
    (hreaches : registry.Reaches parent ancestor) : registry.Reaches child ancestor :=
  ReflTransGen.head hextends hreaches

/-- The meaning of an interface is beyond doubt: what it reaches is registered, without cycles, and
no two declarations give one property different types. -/
structure Coherent (registry : Registry) (root : Identifier) : Prop where
  registered : ∀ id, registry.Reaches root id → (registry.interfaceType? id).isSome
  acyclic : ∀ id, registry.Reaches root id → ¬ TransGen registry.Extends id id
  shared : ∀ id required, registry.DeclaredFrom root (.shared id required) →
    (registry.sharedPropertyType? id).isSome
  agreement : ∀ first second, registry.DeclaredFrom root first → registry.DeclaredFrom root second →
    first.id = second.id → first.type? registry = second.type? registry

/-! ### Declarations -/

/-- The property that a declaration on an interface stands for. -/
inductive StandsFor (registry : Registry) (interface : Identifier) :
    InterfaceProperty → EffectiveProperty → Prop
  | shared {id : Identifier} {required : Bool} {type : SharedPropertyType}
      (htype : registry.sharedPropertyType? id = some type) :
      StandsFor registry interface (.shared id required)
        ⟨id, type.type, type.displayName, required, .shared⟩
  | inline {id : Identifier} {type : PropertyType} {displayName : String} {required : Bool} :
      StandsFor registry interface (.inline id type displayName required)
        ⟨id, type, displayName, required, .inline interface⟩

theorem resolveProperty_eq_ok_iff :
    registry.resolveProperty id declaration = .ok property ↔
      registry.StandsFor id declaration property := by
  cases declaration with
  | shared shared required =>
    rw [resolveProperty]
    cases htype : registry.sharedPropertyType? shared with
    | none =>
      refine iff_of_false (by simp) fun hstands ↦ ?_
      cases hstands with
      | shared hfound => simp [htype] at hfound
    | some type =>
      constructor
      · intro h
        cases h
        exact .shared htype
      · intro hstands
        cases hstands with
        | shared hfound =>
          cases htype.symm.trans hfound
          rfl
  | inline =>
    constructor
    · intro h
      cases h
      exact .inline
    · intro hstands
      cases hstands
      rfl

namespace StandsFor

theorem id_eq (h : registry.StandsFor id declaration property) : property.id = declaration.id := by
  cases h <;> rfl

theorem type?_eq (h : registry.StandsFor id declaration property) :
    declaration.type? registry = some property.type := by
  cases h with
  | shared htype => rw [InterfaceProperty.type?, htype, Option.map_some]
  | inline => rfl

theorem unique {other : EffectiveProperty} (h : registry.StandsFor id declaration property)
    (hother : registry.StandsFor id declaration other) : property = other := by
  rw [← resolveProperty_eq_ok_iff] at h hother
  exact Except.ok.inj (h.symm.trans hother)

end StandsFor

/-- A declaration stands for something unless it refers to an unknown shared property type. -/
theorem exists_standsFor (id : Identifier)
    (h : ∀ shared required, declaration = .shared shared required →
      (registry.sharedPropertyType? shared).isSome) :
    ∃ property, registry.StandsFor id declaration property := by
  cases declaration with
  | shared shared required =>
    obtain ⟨type, htype⟩ := Option.isSome_iff_exists.mp (h shared required rfl)
    exact ⟨_, .shared htype⟩
  | inline => exact ⟨_, .inline⟩

/-- The errors that the declarations of an interface lead to: a shared property type is not defined,
or a property gets another type than it has. -/
inductive DeclarationError (root id : Identifier) : SchemaError → Prop
  | unknown (shared : Identifier) :
    DeclarationError root id (.unknownSharedPropertyType shared id.text)
  | conflict (property : Identifier) (first second : PropertyType) :
    DeclarationError root id (.conflictingPropertyType property root first second)

theorem resolveProperty_meets_declarationError (root : Identifier) :
    Meets (fun _ ↦ True) (DeclarationError root id) (registry.resolveProperty id declaration) := by
  cases declaration with
  | shared shared required =>
    rw [resolveProperty]
    split
    · exact .unknown shared
    · trivial
  | inline => trivial

theorem mergeProperty_meets_declarationError {found : List EffectiveProperty} :
    Meets (fun _ ↦ True) (DeclarationError root id) (mergeProperty root found property) := by
  rw [mergeProperty]
  split
  · trivial
  · split
    · trivial
    · exact .conflict _ _ _

theorem mergeDeclared_meets_declarationError {found : List EffectiveProperty}
    {declared : List InterfaceProperty} :
    Meets (fun _ ↦ True) (DeclarationError root id)
      (registry.mergeDeclared root id found declared) := by
  refine Meets.foldlM (fun declaration _ before _ ↦ ?_) trivial
  exact (resolveProperty_meets_declarationError root).bind fun property _ ↦
    mergeProperty_meets_declarationError

/-! ### Flattening -/

/-- The properties of an interface and of all that it extends: its own in the order of their
declaration, then those of its parents in turn. -/
inductive Flattening (registry : Registry) : Identifier → List EffectiveProperty → Prop
  | of {id : Identifier} {interface : InterfaceType} {own : List EffectiveProperty}
      {inherited : Identifier → List EffectiveProperty}
      (hinterface : registry.interfaceType? id = some interface)
      (hown : List.Forall₂ (registry.StandsFor id) interface.properties own)
      (hinherited : ∀ parent ∈ interface.parents, registry.Flattening parent (inherited parent)) :
      Flattening registry id (own ++ interface.parents.flatMap inherited)

namespace Flattening

theorem unique {other : List EffectiveProperty} (h : registry.Flattening id flattened)
    (hother : registry.Flattening id other) : flattened = other := by
  induction h generalizing other with
  | of hinterface hown _ ih =>
    cases hother with
    | of hinterface' hown' hinherited' =>
      cases hinterface.symm.trans hinterface'
      congr 1
      · exact List.right_unique_forall₂' (fun _ _ _ h h' ↦ h.unique h') hown hown'
      · exact List.flatMap_congr fun parent hparent ↦ ih parent hparent (hinherited' parent hparent)

/-- A flattening holds the flattenings of all that the interface reaches. -/
theorem of_reaches (h : registry.Flattening root flattened) (hreaches : registry.Reaches root id) :
    ∃ part, registry.Flattening id part ∧ part ⊆ flattened := by
  induction hreaches using ReflTransGen.head_induction_on generalizing flattened with
  | refl => exact ⟨flattened, h, List.Subset.refl _⟩
  | head hextends _ ih =>
    obtain ⟨interface', hinterface', hparent⟩ := hextends
    cases h with
    | of hinterface _ hinherited =>
      cases hinterface.symm.trans hinterface'
      obtain ⟨part, hpart, hsubset⟩ := ih (hinherited _ hparent)
      refine ⟨part, hpart, fun property hproperty ↦ List.mem_append_right _ ?_⟩
      exact List.mem_flatMap.mpr ⟨_, hparent, hsubset hproperty⟩

/-- An interface with a flattening is registered. -/
theorem exists_interface (h : registry.Flattening id flattened) :
    ∃ interface, registry.interfaceType? id = some interface := by
  cases h with
  | of hinterface => exact ⟨_, hinterface⟩

/-- An interface with a flattening lies on no cycle. -/
theorem not_cycle (h : registry.Flattening id flattened) : ¬ TransGen registry.Extends id id := by
  induction h with
  | of hinterface _ _ ih =>
    intro hcycle
    -- A cycle through an interface goes on through one of its parents.
    obtain ⟨parent, hextends, hback⟩ := TransGen.head'_iff.mp hcycle
    obtain ⟨interface', hinterface', hparent⟩ := hextends
    cases hinterface.symm.trans hinterface'
    exact ih parent hparent (TransGen.tail' hback ⟨_, hinterface, hparent⟩)

/-- Every declaration that is reached stands for a member of the flattening. -/
theorem exists_of_declaredFrom (h : registry.Flattening root flattened)
    (hdeclared : registry.DeclaredFrom root declaration) :
    ∃ id, ∃ property ∈ flattened, registry.StandsFor id declaration property := by
  obtain ⟨id, hreaches, interface, hinterface, hdeclaration⟩ := hdeclared
  obtain ⟨part, hpart, hsubset⟩ := h.of_reaches hreaches
  cases hpart with
  | of hinterface' hown =>
    cases hinterface.symm.trans hinterface'
    obtain ⟨property, hproperty, hstands⟩ :=
      exists_of_mem_forall₂ hown.flip hdeclaration
    exact ⟨id, property, hsubset (List.mem_append_left _ hproperty), hstands⟩

/-- Every member of the flattening is what a declaration that is reached stands for. -/
theorem exists_declaredFrom (h : registry.Flattening root flattened) (hmem : property ∈ flattened) :
    ∃ id declaration, registry.DeclaredFrom root declaration ∧
      registry.StandsFor id declaration property := by
  induction h with
  | @of root interface own inherited hinterface hown _ ih =>
    rcases List.mem_append.mp hmem with hmem | hmem
    · obtain ⟨declaration, hdeclaration, hstands⟩ := exists_of_mem_forall₂ hown hmem
      exact ⟨root, declaration, ⟨root, .refl, interface, hinterface, hdeclaration⟩, hstands⟩
    · obtain ⟨parent, hparent, hmem⟩ := List.mem_flatMap.mp hmem
      obtain ⟨id, declaration, ⟨above, hreaches, hdeclares⟩, hstands⟩ := ih parent hparent hmem
      have hextends : registry.Extends root parent := ⟨interface, hinterface, hparent⟩
      exact ⟨id, declaration, ⟨above, .head hextends hreaches, hdeclares⟩, hstands⟩

end Flattening

/-! ### Coherence -/

/-- Properties under one identifier have one type. -/
def TypesAgree (properties : List EffectiveProperty) : Prop :=
  ∀ first ∈ properties, ∀ second ∈ properties, first.id = second.id → first.type = second.type

/-- Below a trail that leads up to it, an interface that a coherent one reaches has a flattening.
The registered interfaces off the trail get fewer with each step up. -/
theorem Coherent.exists_flattening_below (h : registry.Coherent root) (trail : List Identifier)
    (id : Identifier) (hreaches : registry.Reaches root id)
    (htrail : ∀ below ∈ trail, TransGen registry.Extends below id) :
    ∃ flattened, registry.Flattening id flattened := by
  obtain ⟨interface, hinterface⟩ := Option.isSome_iff_exists.mp (h.registered id hreaches)
  have hoff : id ∉ trail := fun hmem ↦ h.acyclic id hreaches (htrail id hmem)
  obtain ⟨own, hown⟩ : ∃ own, List.Forall₂ (registry.StandsFor id) interface.properties own := by
    refine exists_forall₂ fun declaration hdeclaration ↦ exists_standsFor id ?_
    rintro shared required rfl
    exact h.shared shared required ⟨id, hreaches, interface, hinterface, hdeclaration⟩
  have hparents : ∀ parent ∈ interface.parents,
      ∃ flattened, registry.Flattening parent flattened := by
    intro parent hparent
    have hextends : registry.Extends id parent := ⟨interface, hinterface, hparent⟩
    refine h.exists_flattening_below (id :: trail) parent (hreaches.tail hextends) ?_
    intro below hbelow
    rcases List.mem_cons.mp hbelow with rfl | hbelow
    · exact .single hextends
    · exact (htrail below hbelow).tail hextends
  choose! inherited hinherited using hparents
  exact ⟨_, .of hinterface hown hinherited⟩
termination_by registry.interfacesOff trail
decreasing_by exact interfacesOff_cons_lt (mem_interfaceIds hinterface) hoff

/-- An interface is coherent when it has a flattening in which the types agree. -/
theorem coherent_iff_flattening :
    registry.Coherent root ↔ ∃ flattened, registry.Flattening root flattened ∧
      TypesAgree flattened := by
  constructor
  · intro h
    obtain ⟨flattened, hflattened⟩ := h.exists_flattening_below [] root .refl (by simp)
    refine ⟨flattened, hflattened, fun first hfirst second hsecond hid ↦ ?_⟩
    obtain ⟨_, declaration, hdeclared, hstands⟩ := hflattened.exists_declaredFrom hfirst
    obtain ⟨_, declaration', hdeclared', hstands'⟩ := hflattened.exists_declaredFrom hsecond
    have htypes := h.agreement declaration declaration' hdeclared hdeclared' (by
      rw [← hstands.id_eq, ← hstands'.id_eq, hid])
    rw [hstands.type?_eq, hstands'.type?_eq] at htypes
    exact Option.some.inj htypes
  · rintro ⟨flattened, hflattened, hagree⟩
    refine ⟨fun id hreaches ↦ ?_, fun id hreaches ↦ ?_, fun id required hdeclared ↦ ?_,
      fun first second hfirst hsecond hid ↦ ?_⟩
    · obtain ⟨part, hpart, -⟩ := hflattened.of_reaches hreaches
      exact Option.isSome_iff_exists.mpr hpart.exists_interface
    · obtain ⟨part, hpart, -⟩ := hflattened.of_reaches hreaches
      exact hpart.not_cycle
    · obtain ⟨_, property, -, hstands⟩ := hflattened.exists_of_declaredFrom hdeclared
      cases hstands with
      | shared htype => exact Option.isSome_iff_exists.mpr ⟨_, htype⟩
    · obtain ⟨_, property, hproperty, hstands⟩ := hflattened.exists_of_declaredFrom hfirst
      obtain ⟨_, property', hproperty', hstands'⟩ := hflattened.exists_of_declaredFrom hsecond
      rw [hstands.type?_eq, hstands'.type?_eq]
      refine congrArg some (hagree property hproperty property' hproperty' ?_)
      rw [hstands.id_eq, hstands'.id_eq, hid]

end Registry

end Ontology
