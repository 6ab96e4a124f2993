import Ontology.Proofs.Inheritance.Requirements
import Ontology.Proofs.Lookup
import Ontology.Proofs.Naming.Qualification
import Ontology.Definition.Interface

/-!
Properties that interfaces declare themselves. Such a property goes by its name in the namespace;
the interface that declares it has no part in the identifier. So two interfaces that each declare a
property of one name share it: below both of them there is one property where the types agree, and
where they do not an interface that extends both does not resolve. Properties of different names
stay apart (`InterfaceDraft.inline_merge`).

An interface that extends two others and declares nothing resolves exactly when what the two of them
pass on agrees (`Registry.resolves_iff_of_parents`).
-/

set_option autoImplicit false
set_option relaxedAutoImplicit false

namespace Ontology

/-! ### What reaches an interface -/

namespace Registry

variable {registry : Registry} {root first second : Identifier} {interface : InterfaceType}
  {declaration : InterfaceProperty} {type : PropertyType}
  {properties more effective passed passedToo : List EffectiveProperty}

theorem mem_of_mem_firstOfEach {property : EffectiveProperty}
    (h : property ∈ firstOfEach properties) : property ∈ properties :=
  List.mem_of_find?_eq_some (mem_firstOfEach_iff.mp h)

/-- Of properties that agree on types the first under an identifier speaks for all. -/
theorem TypesAgree.exists_firstOfEach (h : TypesAgree properties) {property : EffectiveProperty}
    (hproperty : property ∈ properties) :
    ∃ first ∈ firstOfEach properties, first.id = property.id ∧ first.type = property.type := by
  obtain ⟨first, hfirst, hid⟩ := Lookup.exists_find? EffectiveProperty.id hproperty
  have hmem : first ∈ properties := List.mem_of_find?_eq_some hfirst
  exact ⟨first, mem_firstOfEach_iff.mpr (hid ▸ hfirst), hid, h first hmem property hproperty hid⟩

/-- Every declaration that reaches an interface which resolves is behind an effective property. -/
theorem exists_effective (h : registry.interfaceProperties root = .ok effective)
    (hdeclared : registry.DeclaredFrom root declaration)
    (htype : declaration.type? registry = some type) :
    ∃ property ∈ effective, property.id = declaration.id ∧ property.type = type := by
  obtain ⟨flattened, hflattened, hagree, rfl⟩ := interfaceProperties_eq_ok_iff.mp h
  obtain ⟨_, property, hproperty, hstands⟩ := hflattened.exists_of_declaredFrom hdeclared
  rw [hstands.type?_eq, Option.some.injEq] at htype
  rw [← hstands.id_eq, ← htype]
  exact hagree.exists_firstOfEach hproperty

/-! ### Two parents -/

/-- An interface that declares nothing and extends two others passes on what they do. -/
theorem Flattening.of_parents (hinterface : registry.interfaceType? root = some interface)
    (hown : interface.properties = []) (hparents : interface.parents = [first, second])
    (hfirst : registry.Flattening first properties) (hsecond : registry.Flattening second more) :
    registry.Flattening root (properties ++ more) := by
  have hnone : List.Forall₂ (registry.StandsFor root) interface.properties [] := by
    rw [hown]
    exact .nil
  have hparent : ∀ parent ∈ interface.parents,
      ∃ flattened, registry.Flattening parent flattened := by
    rw [hparents]
    simpa using ⟨⟨properties, hfirst⟩, more, hsecond⟩
  choose! inherited hinherited using hparent
  have hflattening := Flattening.of hinterface hnone hinherited
  simp only [hparents, List.forall_mem_cons] at hinherited
  rw [hparents, List.flatMap_cons, List.flatMap_singleton, List.nil_append,
    hinherited.1.unique hfirst, hinherited.2.1.unique hsecond] at hflattening
  exact hflattening

theorem Flattening.resolves_iff (h : registry.Flattening root properties) :
    (∃ effective, registry.interfaceProperties root = .ok effective) ↔ TypesAgree properties := by
  simp only [interfaceProperties_eq_ok_iff]
  constructor
  · rintro ⟨_, flattened, hflattened, hagree, -⟩
    rwa [h.unique hflattened]
  · exact fun hagree ↦ ⟨_, properties, h, hagree, rfl⟩

/-- An interface that declares nothing and extends two that resolve does so as well exactly when
what it gets from one agrees with what it gets from the other. -/
theorem resolves_iff_of_parents (hinterface : registry.interfaceType? root = some interface)
    (hown : interface.properties = []) (hparents : interface.parents = [first, second])
    (hfirst : registry.interfaceProperties first = .ok passed)
    (hsecond : registry.interfaceProperties second = .ok passedToo) :
    (∃ effective, registry.interfaceProperties root = .ok effective) ↔
      ∀ property ∈ passed, ∀ other ∈ passedToo, property.id = other.id →
        property.type = other.type := by
  obtain ⟨above, habove, hagree, rfl⟩ := interfaceProperties_eq_ok_iff.mp hfirst
  obtain ⟨aboveToo, haboveToo, hagreeToo, rfl⟩ := interfaceProperties_eq_ok_iff.mp hsecond
  have hflattening := Flattening.of_parents hinterface hown hparents habove haboveToo
  rw [hflattening.resolves_iff, typesAgree_append_iff, and_iff_right hagree,
    and_iff_right hagreeToo]
  constructor
  · intro h property hproperty other hother
    exact h property (mem_of_mem_firstOfEach hproperty) other (mem_of_mem_firstOfEach hother)
  · intro h property hproperty other hother hid
    obtain ⟨first, hfirst, hfirstId, hfirstType⟩ := hagree.exists_firstOfEach hproperty
    obtain ⟨second, hsecond, hsecondId, hsecondType⟩ := hagreeToo.exists_firstOfEach hother
    rw [← hfirstType, ← hsecondType]
    exact h first hfirst second hsecond (by rw [hfirstId, hsecondId, hid])

end Registry

/-! ### Properties of one interface -/

namespace InterfaceDraft

variable {policy : NamingPolicy} {registry : Registry} {draft : InterfaceDraft} {name : Name}
  {type : PropertyType} {root : Identifier}

/-- An interface passes its inline properties on to those that extend it. -/
theorem declaredFrom_inline
    (hregistered : registry.interfaceType? (policy.id draft.name) = some (draft.build policy))
    (hextends : registry.Extends root (policy.id draft.name))
    (hinline : .inline name type ∈ draft.properties) :
    registry.DeclaredFrom root
      (.inline (policy.id name) type (policy.id name).localName true) :=
  ⟨policy.id draft.name, .head hextends .refl, draft.build policy, hregistered,
    List.mem_map_of_mem hinline⟩

/-- An interface of a registry extends two that are registered as they are drafted. -/
structure ExtendedBy (policy : NamingPolicy) (registry : Registry) (first second : InterfaceDraft)
    (root : Identifier) : Prop where
  registeredFirst : registry.interfaceType? (policy.id first.name) = some (first.build policy)
  registeredSecond : registry.interfaceType? (policy.id second.name) = some (second.build policy)
  extendsFirst : registry.Extends root (policy.id first.name)
  extendsSecond : registry.Extends root (policy.id second.name)

/-- What two interfaces declare inline is effective in every interface that extends both and
resolves, as one property where the identifiers are the same. -/
theorem ExtendedBy.exists_effective {first second : InterfaceDraft} {other : Name}
    {otherType : PropertyType} {effective : List EffectiveProperty}
    (h : ExtendedBy policy registry first second root)
    (hfirst : .inline name type ∈ first.properties)
    (hsecond : .inline other otherType ∈ second.properties)
    (hresolves : registry.interfaceProperties root = .ok effective) :
    ∃ property ∈ effective, ∃ another ∈ effective,
      property.id = policy.id name ∧ property.type = type ∧
      another.id = policy.id other ∧ another.type = otherType ∧
      (property = another ↔ policy.id name = policy.id other) := by
  have hdeclared := declaredFrom_inline h.registeredFirst h.extendsFirst hfirst
  have hdeclaredToo := declaredFrom_inline h.registeredSecond h.extendsSecond hsecond
  obtain ⟨property, hproperty, hid, htype⟩ := Registry.exists_effective hresolves hdeclared rfl
  obtain ⟨another, hanother, hidToo, htypeToo⟩ :=
    Registry.exists_effective hresolves hdeclaredToo rfl
  refine ⟨property, hproperty, another, hanother, hid, htype, hidToo, htypeToo, ?_⟩
  constructor
  · rintro rfl
    exact hid.symm.trans hidToo
  · intro hsame
    exact List.inj_on_of_nodup_map (Registry.nodup_of_interfaceProperties hresolves) hproperty
      hanother (hid.trans (hsame.trans hidToo.symm))

/-- Inline properties that two interfaces declare under names without dots have one identifier
exactly when the names are the same. In every interface that extends both and resolves, both are
effective with their types, as one property where the names are the same and as two otherwise; so
no such interface resolves where the names are the same and the types are not. If it declares
nothing itself and extends nothing else, it resolves exactly when all that it gets agrees. -/
theorem inline_merge (policy : NamingPolicy) {first second : InterfaceDraft} {name other : String}
    {type otherType : PropertyType} (hfirst : .inline (.auto name) type ∈ first.properties)
    (hsecond : .inline (.auto other) otherType ∈ second.properties) (hname : '.' ∉ name.toList)
    (hother : '.' ∉ other.toList) :
    (((InterfacePropertyDraft.inline (.auto name) type).build policy).id =
        ((InterfacePropertyDraft.inline (.auto other) otherType).build policy).id ↔
      name = other) ∧
    ∀ (registry : Registry) (root : Identifier), ExtendedBy policy registry first second root →
      (∀ effective, registry.interfaceProperties root = .ok effective →
        ∃ property ∈ effective, ∃ another ∈ effective,
          property.id = policy.id (.auto name) ∧ property.type = type ∧
          another.id = policy.id (.auto other) ∧ another.type = otherType ∧
          (property = another ↔ name = other)) ∧
      (name = other → type ≠ otherType →
        ∃ error, registry.interfaceProperties root = .error error) ∧
      ∀ interface passed passedToo, registry.interfaceType? root = some interface →
        interface.properties = [] →
        interface.parents = [policy.id first.name, policy.id second.name] →
        registry.interfaceProperties (policy.id first.name) = .ok passed →
        registry.interfaceProperties (policy.id second.name) = .ok passedToo →
        ((∃ effective, registry.interfaceProperties root = .ok effective) ↔
          ∀ property ∈ passed, ∀ another ∈ passedToo, property.id = another.id →
            property.type = another.type) := by
  have hids : policy.id (.auto name) = policy.id (.auto other) ↔ name = other :=
    Namespace.qualify_auto_eq_iff hname hother
  refine ⟨hids, fun registry root hextended ↦ ?_⟩
  refine ⟨fun effective hresolves ↦ ?_, fun hsame hne ↦ ?_,
    fun interface passed passedToo hinterface hown hparents ↦
      Registry.resolves_iff_of_parents hinterface hown hparents⟩
  · rw [← hids]
    exact hextended.exists_effective hfirst hsecond hresolves
  · cases hresolves : registry.interfaceProperties root with
    | error error => exact ⟨error, rfl⟩
    | ok effective =>
      obtain ⟨property, -, another, -, -, htype, -, htypeToo, hmerged⟩ :=
        hextended.exists_effective hfirst hsecond hresolves
      rw [hmerged.mpr (hids.mpr hsame)] at htype
      exact absurd (htype.symm.trans htypeToo) hne

end InterfaceDraft

/-- An interface with a label of its own. -/
def Fixture.badge : InterfaceDraft where
  name := .auto "badge"
  properties := [.inline (.auto "label") text]

/-- Another one with a label of its own, which may have another type. -/
def Fixture.shelf (label : PropertyType) : InterfaceDraft where
  name := .auto "shelf"
  properties := [.inline (.auto "label") label]

/-- An interface that extends both. -/
def Fixture.badgedShelf : InterfaceDraft where
  name := .auto "badgedShelf"
  parents := [.auto "badge", .auto "shelf"]

/-- The three interfaces in order. -/
def Fixture.labels (label : PropertyType) : List Definition :=
  [.interfaceType badge, .interfaceType (shelf label), .interfaceType badgedShelf]

namespace InterfaceDraft

/-- Two labels of one type become one property of the interface below them. -/
theorem inline_merge_badgedShelf :
    ∃ effective, (Fixture.registry (Fixture.labels Fixture.text)).interfaceProperties
        ⟨"com.example.badgedShelf"⟩ = .ok effective ∧
      ∃ property ∈ effective, ∃ another ∈ effective,
        property.id = ⟨"com.example.label"⟩ ∧ property.type = Fixture.text ∧
        another.id = ⟨"com.example.label"⟩ ∧ another.type = Fixture.text ∧
        (property = another ↔ "label" = "label") := by
  let policy : NamingPolicy := ⟨⟨"com.example."⟩, true⟩
  let registry : Registry := Fixture.registry (Fixture.labels Fixture.text)
  -- All that is computed stands together, so that the registry is built once.
  obtain ⟨hfirst, hsecond, hextendsFirst, hextendsSecond, hresolves, hlabel⟩ :
      registry.interfaceType? (policy.id Fixture.badge.name) = some (Fixture.badge.build policy) ∧
      registry.interfaceType? (policy.id (Fixture.shelf Fixture.text).name) =
        some ((Fixture.shelf Fixture.text).build policy) ∧
      registry.Extends ⟨"com.example.badgedShelf"⟩ (policy.id Fixture.badge.name) ∧
      registry.Extends ⟨"com.example.badgedShelf"⟩ (policy.id (Fixture.shelf Fixture.text).name) ∧
      (registry.interfaceProperties ⟨"com.example.badgedShelf"⟩).toOption.map (fun _ ↦ ()) =
        some () ∧
      policy.id (.auto "label") = ⟨"com.example.label"⟩ := by
    decide +kernel
  have hbadge : .inline (.auto "label") Fixture.text ∈ Fixture.badge.properties :=
    List.mem_cons_self
  have hshelf : .inline (.auto "label") Fixture.text ∈ (Fixture.shelf Fixture.text).properties :=
    List.mem_cons_self
  have hmerge := (inline_merge policy hbadge hshelf (by decide) (by decide)).2 registry
    ⟨"com.example.badgedShelf"⟩ ⟨hfirst, hsecond, hextendsFirst, hextendsSecond⟩
  obtain ⟨effective, heffective, -⟩ := Outcome.exists_of_toOption_map hresolves
  exact ⟨effective, heffective, hlabel ▸ hmerge.1 effective heffective⟩

/-- An inline property belongs to more than its interface: another interface may have it too, and
then an interface that extends both is refused for the types. -/
theorem not_forall_inline_distinct :
    (¬ ∀ (policy : NamingPolicy) (first second : InterfaceDraft) (name other : String)
      (type otherType : PropertyType), policy.id first.name ≠ policy.id second.name →
      .inline (.auto name) type ∈ first.properties →
      .inline (.auto other) otherType ∈ second.properties →
      '.' ∉ name.toList → '.' ∉ other.toList →
      ((InterfacePropertyDraft.inline (.auto name) type).build policy).id ≠
        ((InterfacePropertyDraft.inline (.auto other) otherType).build policy).id) ∧
    ¬ ∀ (policy : NamingPolicy) (registry : Registry) (first second both : InterfaceDraft)
      (name other : String) (type otherType : PropertyType),
      policy.id first.name ≠ policy.id second.name →
      .inline (.auto name) type ∈ first.properties →
      .inline (.auto other) otherType ∈ second.properties →
      '.' ∉ name.toList → '.' ∉ other.toList →
      registry.interfaceType? (policy.id first.name) = some (first.build policy) →
      registry.interfaceType? (policy.id second.name) = some (second.build policy) →
      both.parents = [first.name, second.name] → both.properties = [] →
      ∃ next, both.define policy registry = .ok next := by
  have hbadge : .inline (.auto "label") Fixture.text ∈ Fixture.badge.properties :=
    List.mem_cons_self
  have hshelf : .inline (.auto "label") (.scalar .integer) ∈
      (Fixture.shelf (.scalar .integer)).properties :=
    List.mem_cons_self
  let policy : NamingPolicy := ⟨⟨"com.example."⟩, true⟩
  let registry : Registry := Fixture.registry (Fixture.labels (.scalar .integer))
  obtain ⟨hne, hregistered, hregisteredToo, hrefused⟩ :
      policy.id Fixture.badge.name ≠ policy.id (Fixture.shelf (.scalar .integer)).name ∧
      registry.interfaceType? (policy.id Fixture.badge.name) = some (Fixture.badge.build policy) ∧
      registry.interfaceType? (policy.id (Fixture.shelf (.scalar .integer)).name) =
        some ((Fixture.shelf (.scalar .integer)).build policy) ∧
      (Fixture.badgedShelf.define policy registry).toOption.isSome = false := by
    decide +kernel
  constructor
  · intro hall
    exact hall _ _ _ "label" "label" _ _ hne hbadge hshelf (by decide) (by decide) rfl
  · intro hall
    obtain ⟨next, hnext⟩ := hall policy registry _ _ Fixture.badgedShelf "label" "label" _ _ hne
      hbadge hshelf (by decide) (by decide) hregistered hregisteredToo rfl rfl
    rw [hnext] at hrefused
    cases hrefused

end InterfaceDraft

end Ontology
