import Ontology.Proofs.Inheritance.Closedness
import Ontology.Proofs.Registry.Frame
import Ontology.Proofs.Session.Runs

/-!
Interfaces in the course of a session. A definition of an interface is accepted when this interface
resolves in the registry as it would become; the interfaces that extend it are not looked at. So an
interface that is defined again, or a shared property type that is, can give a property another
type than an interface further down does, which then stops resolving.

This is all that can happen to an interface. Definitions keep a registry closed
(`Definition.closed_of_apply`), so no interface of a session refers to something that is missing or
extends itself, and whether it resolves is a matter of conflicts alone. A conflict arises only by a
definition that writes something which the interface inherits from or refers to
(`interfaces_performAll`).
-/

set_option autoImplicit false
set_option relaxedAutoImplicit false

namespace Ontology

open Outcome

variable {policy : NamingPolicy} {registry next before after : Registry} {definition : Definition}
  {kind : EntityKind} {id : Identifier}

/-! ### What stays registered -/

theorem Registry.isSome_lookup_register {entity : Entity}
    (h : (registry.lookup kind id).isSome) :
    ((registry.register entity).lookup kind id).isSome := by
  rw [Registry.lookup, Registry.register, EntityStore.find?_insert]
  split
  · rfl
  · exact h

namespace Definition

theorem isSome_lookup_registerShared {types : List SharedPropertyType}
    (h : (registry.lookup kind id).isSome) :
    ((registerShared types registry).lookup kind id).isSome := by
  induction types generalizing registry with
  | nil => exact h
  | cons type rest ih => exact ih (Registry.isSome_lookup_register h)

/-- A definition takes nothing away. -/
theorem isSome_lookup_of_apply (happly : definition.apply policy registry = .ok next)
    (h : (registry.lookup kind id).isSome) : (next.lookup kind id).isSome := by
  cases apply_eq_ok_iff.mp happly with
  | sharedProperty | valueType | objectType => exact Registry.isSome_lookup_register h
  | interfaceType => exact Registry.isSome_lookup_register (isSome_lookup_registerShared h)
  | @generatedAction _ compiled | @manualAction _ compiled =>
    rw [Registry.lookup, compiled.register_defined, compiled.register_imported]
    exact Registry.isSome_lookup_register h

/-- What is found under other identifiers is as before. -/
theorem Frame.lookup_eq (h : definition.Frame policy before after)
    (hself : ¬ (kind = definition.kind ∧ id = definition.id policy))
    (hshared : ¬ (kind = .sharedPropertyType ∧ id ∈ definition.sharedPropertyIds policy)) :
    after.lookup kind id = before.lookup kind id := by
  rw [Registry.lookup, Registry.lookup, h.defined kind id hself hshared, h.imported]

theorem Frame.interfaceType?_eq (h : definition.Frame policy before after)
    (hself : ¬ (definition.kind = .interfaceType ∧ id = definition.id policy)) :
    after.interfaceType? id = before.interfaceType? id := by
  have hlookup : after.lookup .interfaceType id = before.lookup .interfaceType id :=
    h.lookup_eq (fun hsame ↦ hself ⟨hsame.1.symm, hsame.2⟩) (nomatch ·.1)
  rw [Registry.lookup_interfaceType, Registry.lookup_interfaceType] at hlookup
  exact Option.map_injective (fun _ _ ↦ Entity.interfaceType.inj) hlookup

theorem Frame.sharedPropertyType?_eq (h : definition.Frame policy before after)
    (hself : ¬ (definition.kind = .sharedPropertyType ∧ id = definition.id policy))
    (hshared : id ∉ definition.sharedPropertyIds policy) :
    after.sharedPropertyType? id = before.sharedPropertyType? id := by
  have hlookup : after.lookup .sharedPropertyType id = before.lookup .sharedPropertyType id :=
    h.lookup_eq (fun hsame ↦ hself ⟨hsame.1.symm, hsame.2⟩) (hshared ·.2)
  rw [Registry.lookup_sharedPropertyType, Registry.lookup_sharedPropertyType] at hlookup
  exact Option.map_injective (fun _ _ ↦ Entity.sharedPropertyType.inj) hlookup

/-! ### Interfaces after a definition -/

/-- An interface that is defined resolves, and is coherent. -/
theorem coherent_of_apply (happly : definition.apply policy registry = .ok next)
    (hkind : definition.kind = .interfaceType) : next.Coherent (definition.id policy) := by
  cases apply_eq_ok_iff.mp happly with
  | interfaceType _ _ hresolves =>
    obtain ⟨flattened, hflattened, hagree, -⟩ :=
      Registry.interfaceProperties_eq_ok_iff.mp hresolves
    exact Registry.coherent_iff_flattening.mpr ⟨flattened, hflattened, hagree⟩
  | sharedProperty | valueType | objectType | generatedAction | manualAction => cases hkind

/-- Definitions keep a registry closed. -/
theorem closed_of_apply (happly : definition.apply policy registry = .ok next)
    (h : registry.Closed) : next.Closed := by
  refine h.of_changed (fun id ↦ ?_) (fun id hfound ↦ ?_)
  · by_cases hself : definition.kind = .interfaceType ∧ id = definition.id policy
    · obtain ⟨hkind, rfl⟩ := hself
      exact .inr (coherent_of_apply happly hkind)
    · exact .inl ((frame_of_apply happly).interfaceType?_eq hself)
  · have hlookup : (registry.lookup .sharedPropertyType id).isSome →
        (next.lookup .sharedPropertyType id).isSome :=
      isSome_lookup_of_apply happly
    rw [Registry.lookup_sharedPropertyType, Registry.lookup_sharedPropertyType,
      Option.isSome_map, Option.isSome_map] at hlookup
    exact hlookup hfound

/-- A definition writes an interface that another one is or extends, or a shared property type that
is referred to there. -/
def ChangesBelow (policy : NamingPolicy) (registry : Registry) (root : Identifier)
    (definition : Definition) : Prop :=
  definition.kind = .interfaceType ∧ registry.Reaches root (definition.id policy) ∨
    ∃ shared required, registry.DeclaredFrom root (.shared shared required) ∧
      (definition.kind = .sharedPropertyType ∧ shared = definition.id policy ∨
        shared ∈ definition.sharedPropertyIds policy)

/-- All other definitions leave an interface as it was, whether it resolves or not. -/
theorem interfaceProperties_of_apply (happly : definition.apply policy registry = .ok next)
    (hother : ¬ definition.ChangesBelow policy registry id) :
    next.interfaceProperties id = registry.interfaceProperties id := by
  have hframe := frame_of_apply happly
  refine Registry.collectProperties_congr (fun above hreaches ↦ ?_)
    (fun shared required hdeclared ↦ ?_) .refl
  · refine hframe.interfaceType?_eq ?_
    rintro ⟨hkind, rfl⟩
    exact hother (.inl ⟨hkind, hreaches⟩)
  · exact hframe.sharedPropertyType?_eq
      (fun hself ↦ hother (.inr ⟨shared, required, hdeclared, .inl hself⟩))
      (fun hshared ↦ hother (.inr ⟨shared, required, hdeclared, .inr hshared⟩))

end Definition

/-! ### Interfaces of a session -/

namespace Session

variable {start : Session}

theorem closed_performAll {options : SessionOptions} (hstart : Session.start options = .ok start)
    (definitions : List Definition) :
    (start.performAll (definitions.map .define)).registry.Closed := by
  refine performAll_keeps ?_ Registry.closed_empty
    (fun _ _ _ ↦ Definition.closed_of_apply) (by simp)
  rw [(of_start hstart).1]
  exact Registry.closed_empty

/-- Whatever is defined in a fresh session, an interface that it has resolves exactly when it is
free of conflicts, and when it does not, the error reports a conflict. The outcome stays the same
through every definition that writes none of the interfaces which this one is or extends, nor a
shared property type that these refer to. -/
theorem interfaces_performAll {options : SessionOptions} (hstart : Session.start options = .ok start)
    (definitions : List Definition) :
    let registry := (start.performAll (definitions.map .define)).registry
    ∀ id interface, registry.defined.interfaceTypes.get? id = some interface →
      ((∃ effective, registry.interfaceProperties id = .ok effective) ↔
        registry.ConflictFree id) ∧
      (∀ error, registry.interfaceProperties id = .error error → registry.Conflict id error) ∧
      ∀ policy definition next, Definition.apply policy registry definition = .ok next →
        ¬ definition.ChangesBelow policy registry id →
          next.interfaceProperties id = registry.interfaceProperties id := by
  intro registry id interface hinterface
  have hclosed : registry.Closed := closed_performAll hstart definitions
  have hregistered : (registry.interfaceType? id).isSome := by
    rw [Registry.interfaceType?, hinterface]
    rfl
  refine ⟨hclosed.resolves_iff hregistered, fun error herror ↦ ?_, ?_⟩
  · have hmeets := hclosed.interfaceProperties_meets hregistered
    rwa [herror] at hmeets
  · intro policy definition next happly hother
    exact Definition.interfaceProperties_of_apply happly hother

end Session

/-! ### An interface that stops resolving -/

/-- An interface `asset` with a serial number of its own, and the interface `named` that it extends,
which is defined again with a serial number of another type. -/
def Fixture.renumbered : List Definition :=
  [.interfaceType { name := .auto "named", properties := [.inline (.auto "label") text] },
  .interfaceType
    { name := .auto "asset"
      parents := [.auto "named"]
      properties := [.inline (.auto "serial") text] },
  .interfaceType
    { name := .auto "named"
      properties := [.inline (.auto "label") text, .inline (.auto "serial") (.scalar .integer)] }]

namespace Session

/-- The interface above `asset` is defined again, and `asset` no longer resolves. -/
theorem exists_error_renumbered :
    ∃ start interface error, Session.start { qualifier := "com.example" } = .ok start ∧
      (start.performAll (Fixture.renumbered.map .define)).registry.defined.interfaceTypes.get?
        ⟨"com.example.asset"⟩ = some interface ∧
      (start.performAll (Fixture.renumbered.map .define)).registry.interfaceProperties
        ⟨"com.example.asset"⟩ = .error error := by
  have hcomputed : (Session.start { qualifier := "com.example" }).toOption.map (fun start ↦
      let registry := (start.performAll (Fixture.renumbered.map .define)).registry
      ((registry.defined.interfaceTypes.get? ⟨"com.example.asset"⟩).isSome,
        (registry.interfaceProperties ⟨"com.example.asset"⟩).toOption.isSome)) =
      some (true, false) := by
    decide +kernel
  obtain ⟨start, hstart, hview⟩ := exists_of_toOption_map hcomputed
  obtain ⟨hregistered, hfails⟩ := Prod.mk.inj hview
  obtain ⟨interface, hinterface⟩ := Option.isSome_iff_exists.mp hregistered
  refine ⟨start, interface, ?_⟩
  cases hresolved : (start.performAll (Fixture.renumbered.map .define)).registry.interfaceProperties
      ⟨"com.example.asset"⟩ with
  | ok effective => simp [hresolved, Except.toOption] at hfails
  | error error => exact ⟨error, hstart, hinterface, rfl⟩

/-- What is reported then is a conflict. -/
theorem interfaces_performAll_renumbered :
    ∃ start error, Session.start { qualifier := "com.example" } = .ok start ∧
      (start.performAll (Fixture.renumbered.map .define)).registry.interfaceProperties
        ⟨"com.example.asset"⟩ = .error error ∧
      (start.performAll (Fixture.renumbered.map .define)).registry.Conflict
        ⟨"com.example.asset"⟩ error := by
  obtain ⟨start, interface, error, hstart, hinterface, herror⟩ := exists_error_renumbered
  have hinterfaces := interfaces_performAll hstart Fixture.renumbered _ interface hinterface
  exact ⟨start, error, hstart, herror, hinterfaces.2.1 error herror⟩

/-- Not every interface of a session resolves. -/
theorem not_forall_interfaces_resolve :
    ¬ ∀ (options : SessionOptions) (start : Session) (definitions : List Definition)
      (id : Identifier) (interface : InterfaceType), Session.start options = .ok start →
      (start.performAll (definitions.map .define)).registry.defined.interfaceTypes.get? id =
        some interface →
      ∃ effective,
        (start.performAll (definitions.map .define)).registry.interfaceProperties id =
          .ok effective := by
  intro hall
  obtain ⟨start, interface, error, hstart, hinterface, herror⟩ := exists_error_renumbered
  obtain ⟨effective, heffective⟩ :=
    hall _ start Fixture.renumbered ⟨"com.example.asset"⟩ interface hstart hinterface
  cases herror.symm.trans heffective

end Session

end Ontology
