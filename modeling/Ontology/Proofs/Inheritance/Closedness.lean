import Ontology.Proofs.Inheritance.Resolution

/-!
Registries in which no interface refers to what is not there. In a closed registry
(`Registry.Closed`) parents and shared property types that are named are registered, and no
interface extends itself. What is left to go wrong is that two declarations give one property
different types: the walk over a closed registry either succeeds or reports two such declarations
(`Closed.interfaceProperties_meets`), so an interface resolves exactly when it is free of conflicts
(`Closed.resolves_iff`).

A registry stays closed when the interfaces that change in it are coherent afterwards
(`Closed.of_changed`). This asks nothing of the interfaces further down, which are the ones that a
conflict may reach.
-/

set_option autoImplicit false
set_option relaxedAutoImplicit false

namespace Ontology.Registry

open Outcome Relation

variable {registry next : Registry} {root id : Identifier} {interface : InterfaceType}
  {trail : List Identifier}

/-- What the interfaces of a registry refer to is registered, and none of them extends itself. -/
structure Closed (registry : Registry) : Prop where
  parents : ∀ child parent, registry.Extends child parent →
    (registry.interfaceType? parent).isSome
  shared : ∀ id shared required, registry.Declares id (.shared shared required) →
    (registry.sharedPropertyType? shared).isSome
  acyclic : ∀ id, ¬ TransGen registry.Extends id id

/-- No two declarations that an interface makes or inherits give one property different types. -/
def ConflictFree (registry : Registry) (root : Identifier) : Prop :=
  ∀ first second, registry.DeclaredFrom root first → registry.DeclaredFrom root second →
    first.id = second.id → first.type? registry = second.type? registry

/-- An error that reports two declarations which an interface makes or inherits, of one property and
of different types. -/
inductive Conflict (registry : Registry) (root : Identifier) : SchemaError → Prop
  | of {first second : InterfaceProperty} {firstType secondType : PropertyType}
      (hfirst : registry.DeclaredFrom root first) (hsecond : registry.DeclaredFrom root second)
      (hid : first.id = second.id) (hfirstType : first.type? registry = some firstType)
      (hsecondType : second.type? registry = some secondType) (hne : firstType ≠ secondType) :
      Conflict registry root (.conflictingPropertyType first.id root firstType secondType)

theorem closed_empty : Registry.empty.Closed := by
  have hnone (id : Identifier) : Registry.empty.interfaceType? id = none := rfl
  have hextends (child parent : Identifier) : ¬ Registry.empty.Extends child parent := by
    rintro ⟨interface, hinterface, -⟩
    cases (hnone child).symm.trans hinterface
  refine ⟨fun child parent h ↦ absurd h (hextends child parent), ?_, ?_⟩
  · rintro id shared required ⟨interface, hinterface, -⟩
    cases (hnone id).symm.trans hinterface
  · intro id hcycle
    obtain ⟨parent, h, -⟩ := TransGen.head'_iff.mp hcycle
    exact hextends id parent h

/-! ### The walk over a closed registry -/

/-- Properties that are declared on an interface or on one that it extends. -/
def AllDeclared (registry : Registry) (root : Identifier) (found : List EffectiveProperty) : Prop :=
  ∀ property ∈ found, ∃ declaration, registry.DeclaredFrom root declaration ∧
    declaration.id = property.id ∧ declaration.type? registry = some property.type

theorem mergeProperty_meets {declaration : InterfaceProperty} {property : EffectiveProperty}
    {found : List EffectiveProperty} (hfound : registry.AllDeclared root found)
    (hdeclared : registry.DeclaredFrom root declaration)
    (hstands : registry.StandsFor id declaration property) :
    Meets (registry.AllDeclared root) (registry.Conflict root)
      (mergeProperty root found property) := by
  rw [mergeProperty]
  split
  · intro other hother
    rcases List.mem_append.mp hother with hother | hother
    · exact hfound other hother
    · obtain rfl := List.mem_singleton.mp hother
      exact ⟨declaration, hdeclared, hstands.id_eq.symm, hstands.type?_eq⟩
  · next first hfirst =>
    have hsame : first.id = property.id := by simpa using List.find?_some hfirst
    split
    · exact hfound
    · next hne =>
      obtain ⟨earlier, hearlier, hid, htype⟩ := hfound first (List.mem_of_find?_eq_some hfirst)
      have hids : earlier.id = declaration.id := by rw [hid, hsame, hstands.id_eq]
      have hconflict := Conflict.of hearlier hdeclared hids htype hstands.type?_eq hne
      rwa [hid, hsame] at hconflict

namespace Closed

theorem mergeDeclared_meets (h : registry.Closed) (hreaches : registry.Reaches root id)
    (hinterface : registry.interfaceType? id = some interface) {found : List EffectiveProperty}
    (hfound : registry.AllDeclared root found) :
    Meets (registry.AllDeclared root) (registry.Conflict root)
      (registry.mergeDeclared root id found interface.properties) := by
  refine Meets.foldlM (fun declaration hdeclaration before hbefore ↦ ?_) hfound
  have hdeclares : registry.Declares id declaration := ⟨interface, hinterface, hdeclaration⟩
  obtain ⟨property, hstands⟩ : ∃ property, registry.StandsFor id declaration property := by
    refine exists_standsFor id fun shared required hshared ↦ ?_
    exact h.shared id shared required (hshared ▸ hdeclares)
  rw [resolveProperty_eq_ok_iff.mpr hstands]
  exact mergeProperty_meets hbefore ⟨id, hreaches, hdeclares⟩ hstands

/-- Along a trail that leads up to it, the walk through an interface can fail with conflicts
only. -/
theorem collectProperties_meets (h : registry.Closed) {found : List EffectiveProperty}
    (hregistered : (registry.interfaceType? id).isSome) (hreaches : registry.Reaches root id)
    (htrail : ∀ below ∈ trail, TransGen registry.Extends below id)
    (hfound : registry.AllDeclared root found) :
    Meets (registry.AllDeclared root) (registry.Conflict root)
      (registry.collectProperties root trail found id) := by
  induction trail, found, id using collectProperties.induct registry with
  | case1 trail found id hon => exact absurd (htrail id hon) (h.acyclic id)
  | case2 trail found id hoff hnone => simp [hnone] at hregistered
  | case3 trail found id hoff interface hinterface ih =>
    rw [collectProperties_of_interface hoff hinterface]
    refine (h.mergeDeclared_meets hreaches hinterface hfound).bind fun merged hmerged ↦ ?_
    refine Meets.foldlM (fun parent hparent before hbefore ↦ ?_) hmerged
    have hextends : registry.Extends id parent := ⟨interface, hinterface, hparent⟩
    refine ih before parent (h.parents id parent hextends) (hreaches.tail hextends) ?_ hbefore
    intro below hbelow
    rcases List.mem_cons.mp hbelow with rfl | hbelow
    · exact .single hextends
    · exact (htrail below hbelow).tail hextends

/-- In a closed registry an interface resolves or has a conflict. -/
theorem interfaceProperties_meets (h : registry.Closed)
    (hregistered : (registry.interfaceType? id).isSome) :
    Meets (registry.AllDeclared id) (registry.Conflict id) (registry.interfaceProperties id) :=
  h.collectProperties_meets hregistered .refl (by simp) (by simp [AllDeclared])

/-- In a closed registry an interface resolves exactly when it is free of conflicts. -/
theorem resolves_iff (h : registry.Closed) (hregistered : (registry.interfaceType? id).isSome) :
    (∃ effective, registry.interfaceProperties id = .ok effective) ↔ registry.ConflictFree id := by
  constructor
  · rintro ⟨effective, heffective⟩
    obtain ⟨flattened, hflattened, hagree, -⟩ := interfaceProperties_eq_ok_iff.mp heffective
    exact (coherent_iff_flattening.mpr ⟨flattened, hflattened, hagree⟩).agreement
  · intro hfree
    have hmeets := h.interfaceProperties_meets hregistered
    cases hresolved : registry.interfaceProperties id with
    | ok effective => exact ⟨effective, rfl⟩
    | error error =>
      rw [hresolved] at hmeets
      obtain ⟨hfirst, hsecond, hid, hfirstType, hsecondType, hne⟩ := hmeets
      have htypes := hfree _ _ hfirst hsecond hid
      rw [hfirstType, hsecondType, Option.some.injEq] at htypes
      exact absurd htypes hne

end Closed

/-! ### Changes to a closed registry -/

/-- A path whose interfaces are all as before was there before. -/
theorem transGen_of_unchanged {child : Identifier} (hpath : TransGen next.Extends child id)
    (hunchanged : ∀ below, next.Reaches below id →
      next.interfaceType? below = registry.interfaceType? below) :
    TransGen registry.Extends child id := by
  have hold {below parent : Identifier} (hextends : next.Extends below parent)
      (hreaches : next.Reaches parent id) : registry.Extends below parent := by
    obtain ⟨interface, hinterface, hparent⟩ := hextends
    have hreaches := hreaches.head ⟨interface, hinterface, hparent⟩
    exact ⟨interface, hunchanged below hreaches ▸ hinterface, hparent⟩
  induction hpath using TransGen.head_induction_on with
  | single hextends => exact .single (hold hextends .refl)
  | head hextends hrest ih => exact ih.head (hold hextends hrest.to_reflTransGen)

/-- A closed registry stays closed when every interface that changes is coherent afterwards and no
shared property type is lost. -/
theorem Closed.of_changed (h : registry.Closed)
    (hchanged : ∀ id, next.interfaceType? id = registry.interfaceType? id ∨ next.Coherent id)
    (hshared : ∀ id, (registry.sharedPropertyType? id).isSome →
      (next.sharedPropertyType? id).isSome) : next.Closed where
  parents := by
    rintro child parent ⟨interface, hinterface, hparent⟩
    rcases hchanged child with hsame | hcoherent
    · have hbefore := h.parents child parent ⟨interface, hsame ▸ hinterface, hparent⟩
      rcases hchanged parent with hsame | hcoherent
      · rwa [hsame]
      · exact hcoherent.registered parent .refl
    · exact hcoherent.registered parent (.single ⟨interface, hinterface, hparent⟩)
  shared := by
    rintro id shared required ⟨interface, hinterface, hdeclaration⟩
    rcases hchanged id with hsame | hcoherent
    · exact hshared shared
        (h.shared id shared required ⟨interface, hsame ▸ hinterface, hdeclaration⟩)
    · exact hcoherent.shared shared required ⟨id, .refl, interface, hinterface, hdeclaration⟩
  acyclic := by
    intro id hcycle
    -- A coherent interface on the cycle would not be coherent, so nothing on it has changed.
    refine h.acyclic id (transGen_of_unchanged hcycle fun below hreaches ↦ ?_)
    refine (hchanged below).resolve_right fun hcoherent ↦ ?_
    exact hcoherent.acyclic id hreaches hcycle

/-- The walk sees no more of a registry than the interfaces that it reaches and the shared property
types that these refer to. -/
theorem collectProperties_congr {found : List EffectiveProperty}
    (hinterfaces : ∀ id, registry.Reaches root id →
      next.interfaceType? id = registry.interfaceType? id)
    (hshared : ∀ shared required, registry.DeclaredFrom root (.shared shared required) →
      next.sharedPropertyType? shared = registry.sharedPropertyType? shared)
    (hreaches : registry.Reaches root id) :
    next.collectProperties root trail found id =
      registry.collectProperties root trail found id := by
  induction trail, found, id using collectProperties.induct registry with
  | case1 trail found id hon =>
    rw [collectProperties, dif_pos hon, collectProperties, dif_pos hon]
  | case2 trail found id hoff hnone =>
    rw [collectProperties_of_none hoff hnone,
      collectProperties_of_none hoff ((hinterfaces id hreaches).trans hnone)]
  | case3 trail found id hoff interface hinterface ih =>
    rw [collectProperties_of_interface hoff hinterface,
      collectProperties_of_interface hoff ((hinterfaces id hreaches).trans hinterface)]
    have hmerge : next.mergeDeclared root id found interface.properties =
        registry.mergeDeclared root id found interface.properties := by
      refine foldlM_congr (fun declaration hdeclaration before ↦ ?_) found
      have hdeclared : registry.DeclaredFrom root declaration :=
        ⟨id, hreaches, interface, hinterface, hdeclaration⟩
      cases declaration with
      | shared shared required =>
        rw [resolveProperty, resolveProperty, hshared shared required hdeclared]
      | inline => rfl
    rw [hmerge]
    congr 1
    funext merged
    refine foldlM_congr (fun parent hparent before ↦ ?_) merged
    exact ih before parent (hreaches.tail ⟨interface, hinterface, hparent⟩)

end Ontology.Registry
