import Ontology.Proofs.Action.Elaboration
import Ontology.Proofs.Action.Rules
import Ontology.Proofs.Action.Target
import Ontology.Proofs.Inheritance.Inclusion
import Ontology.Proofs.Registry.Frame

/-!
Compilation against a registry that has grown. A compilation asks the registry for the target of the
action, for the entities that its rules work on, and for the objects that its values are read from,
and it asks for each by name. So a compilation that succeeds gives the same action in every registry
that holds all of this one (`Registry.Within.keeps_results`): each stage persists when the lookups
in it do.
-/

set_option autoImplicit false
set_option relaxedAutoImplicit false

namespace Ontology

open Outcome

variable {registry larger : Registry}

/-- A target is found as it was. -/
theorem ActionTarget.resolve_persists (h : registry.Within larger) (named : CrudTarget) :
    Persists (resolve registry named) (resolve larger named) := by
  intro target htarget
  rcases resolve_eq_ok_iff.mp htarget with ⟨id, object, hnamed, hobject, rfl⟩ |
    ⟨id, interface, properties, hnamed, hinterface, hproperties, hdistinct, rfl⟩
  · exact resolve_eq_ok_iff.mpr (.inl ⟨id, object, hnamed, h.objectType hobject, rfl⟩)
  · exact resolve_eq_ok_iff.mpr (.inr ⟨id, interface, properties, hnamed,
      h.interfaceType hinterface, h.interfaceProperties id properties hproperties, hdistinct, rfl⟩)

/-- A value is accepted as it was: if it is read from an object, this object is still there. -/
theorem ValueSource.check_persists (h : registry.Within larger) (scope : Scope) (property : String)
    (type : PropertyType) (value : ValueSource) :
    Persists (value.check registry scope property type)
      (value.check larger scope property type) := by
  refine .bind (.refl _) fun _ ↦ ?_
  cases value with
  | literal | parameter | currentUser | currentTime => exact .refl _
  | objectProperty holder source =>
    dsimp only
    split
    · next objectType _ =>
      cases hobject : registry.objectType? objectType with
      | none => exact .of_error _ _
      | some object =>
        rw [h.objectType hobject]
        exact .refl _
    · exact .refl _

/-! ### Generated rules -/

namespace CrudDefinition

variable (definition : CrudDefinition) (scope : Scope) (target : ActionTarget)

theorem binding?_persists (h : registry.Within larger) (property : TargetProperty) :
    Persists (definition.binding? registry scope property)
      (definition.binding? larger scope property) := by
  unfold binding?
  split
  · next value _ => exact (value.check_persists h scope _ _).bind fun _ ↦ .refl _
  · exact .refl _

theorem bindings_persists (h : registry.Within larger) :
    Persists (definition.bindings registry scope target)
      (definition.bindings larger scope target) :=
  (Persists.mapM (definition.binding?_persists scope h) _).bind fun _ ↦ .refl _

/-- A generated rule comes out as it did. -/
theorem rule_persists (h : registry.Within larger) :
    Persists (definition.rule registry scope target) (definition.rule larger scope target) := by
  have hobject : Persists (definition.objectBindings registry scope target)
      (definition.objectBindings larger scope target) :=
    (definition.bindings_persists scope target h).bind fun _ ↦ .refl _
  have hinterface : Persists (definition.interfaceBindings registry scope target)
      (definition.interfaceBindings larger scope target) :=
    (definition.bindings_persists scope target h).bind fun _ ↦ .refl _
  unfold CrudDefinition.rule
  split
  · exact hobject.bind fun _ ↦ .refl _
  · exact .bind (.refl _) fun _ ↦ hobject.bind fun _ ↦ .refl _
  · exact .bind (.refl _) fun _ ↦ hobject.bind fun _ ↦ .refl _
  · exact .refl _
  · exact .bind (.refl _) fun _ ↦ hinterface.bind fun _ ↦ .refl _
  · exact .bind (.refl _) fun _ ↦ hinterface.bind fun _ ↦ .refl _
  · exact .bind (.refl _) fun _ ↦ .bind (.refl _) fun _ ↦ hinterface.bind fun _ ↦ .refl _

/-- A generated action is elaborated as it was. -/
theorem elaborate_persists (h : registry.Within larger) :
    Persists (definition.elaborate registry) (definition.elaborate larger) := by
  refine (ActionTarget.resolve_persists h definition.target).bind fun target ↦ ?_
  refine .bind (.refl _) fun sketches ↦ .bind (.refl _) fun parameters ↦ ?_
  exact (definition.rule_persists _ target h).bind fun _ ↦ .refl _

end CrudDefinition

/-! ### Rules written by hand -/

namespace Rule

variable {scope : Scope}

theorem checkObjectBindings_persists (h : registry.Within larger) (objectType : Identifier)
    (bindings : List ObjectBinding) :
    Persists (checkObjectBindings registry scope objectType bindings)
      (checkObjectBindings larger scope objectType bindings) := by
  intro _ hpass
  obtain ⟨object, hobject, hbindings⟩ := checkObjectBindings_eq_ok_iff.mp hpass
  refine checkObjectBindings_eq_ok_iff.mpr ⟨object, h.objectType hobject, fun binding hbinding ↦ ?_⟩
  obtain ⟨property, hproperty, hcheck⟩ := hbindings binding hbinding
  exact ⟨property, hproperty, binding.value.check_persists h scope _ _ () hcheck⟩

theorem checkInterfaceBindings_persists (h : registry.Within larger) (interfaceType : Identifier)
    (bindings : List InterfaceBinding) :
    Persists (checkInterfaceBindings registry scope interfaceType bindings)
      (checkInterfaceBindings larger scope interfaceType bindings) := by
  intro _ hpass
  obtain ⟨effective, heffective, hbindings⟩ := checkInterfaceBindings_eq_ok_iff.mp hpass
  refine checkInterfaceBindings_eq_ok_iff.mpr
    ⟨effective, h.interfaceProperties _ _ heffective, fun binding hbinding ↦ ?_⟩
  obtain ⟨property, hproperty, hcheck⟩ := hbindings binding hbinding
  exact ⟨property, hproperty, binding.value.check_persists h scope _ _ () hcheck⟩

/-- A rule fits as it did. -/
theorem Fits.within {rule : Rule} (h : registry.Within larger) (hfits : rule.Fits registry scope) :
    rule.Fits larger scope := by
  cases hfits with
  | addObject hvalues => exact .addObject (checkObjectBindings_persists h _ _ _ hvalues)
  | modifyObject htarget hvalues =>
    exact .modifyObject htarget (checkObjectBindings_persists h _ _ _ hvalues)
  | addOrModifyObject htarget hvalues =>
    exact .addOrModifyObject htarget (checkObjectBindings_persists h _ _ _ hvalues)
  | deleteObject htarget => exact .deleteObject htarget
  | addInterface hobjectType hvalues =>
    exact .addInterface hobjectType (checkInterfaceBindings_persists h _ _ _ hvalues)
  | modifyInterface htarget hobjectType hvalues =>
    exact .modifyInterface htarget hobjectType (checkInterfaceBindings_persists h _ _ _ hvalues)

theorem check_persists (h : registry.Within larger) (scope : Scope) (rule : Rule) :
    Persists (rule.check registry scope) (rule.check larger scope) :=
  fun _ hpass ↦ check_eq_ok_iff.mpr ((check_eq_ok_iff.mp hpass).within h)

end Rule

/-- An action that is spelled out is elaborated as it was. -/
theorem ManualDefinition.elaborate_persists (h : registry.Within larger)
    (definition : ManualDefinition) :
    Persists (definition.elaborate registry) (definition.elaborate larger) := by
  refine .bind (.refl _) fun _ ↦ ?_
  exact (Persists.forM (Rule.check_persists h _) _).bind fun _ ↦ .refl _

/-! ### Results in a registry that has grown -/

/-- Definitions of either kind compile as they did: only their elaboration asks the registry. -/
theorem ActionDefinition.compile_persists (h : registry.Within larger)
    (definition : ActionDefinition) :
    Persists (definition.compile registry) (definition.compile larger) := by
  have helaborate : Persists (definition.elaborate registry) (definition.elaborate larger) := by
    cases definition with
    | generated definition => exact definition.elaborate_persists h
    | manual definition => exact definition.elaborate_persists h
  intro compiled hcompile
  obtain ⟨elaboration, helaborated, hrest⟩ := compile_eq_ok_iff.mp hcompile
  exact compile_eq_ok_iff.mpr ⟨elaboration, helaborate elaboration helaborated, hrest⟩

/-- Where everything that describes data in one registry is found in another one, on whichever side,
effective properties and compiled actions are the same in both. -/
theorem Registry.Within.keeps_results (h : registry.Within larger) :
    (∀ id effective, registry.interfaceProperties id = .ok effective →
      larger.interfaceProperties id = .ok effective) ∧
    (∀ (definition : CrudDefinition) compiled, definition.compile registry = .ok compiled →
      definition.compile larger = .ok compiled) ∧
    ∀ (definition : ManualDefinition) compiled, definition.compile registry = .ok compiled →
      definition.compile larger = .ok compiled :=
  ⟨h.interfaceProperties,
    fun definition ↦ (ActionDefinition.generated definition).compile_persists h,
    fun definition ↦ (ActionDefinition.manual definition).compile_persists h⟩

/-- The action on tickets compiles to the same where tickets are imported and there is one more
object type. -/
theorem Registry.Within.keeps_results_editTicket :
    let thing : Entity := .objectType (Fixture.thing ⟨"com.example.thing"⟩)
    let larger := Registry.register { imported := (Fixture.registry Fixture.ticket).defined } thing
    (Fixture.registry Fixture.ticket).Within larger ∧
      ∃ compiled, Fixture.editTicket.compile (Fixture.registry Fixture.ticket) = .ok compiled ∧
        Fixture.editTicket.compile larger = .ok compiled := by
  intro thing larger
  have hmoved := Within.moved (Fixture.registry_imported Fixture.ticket)
  have hfree : Registry.lookup { imported := (Fixture.registry Fixture.ticket).defined } thing.kind
      thing.id = none := by
    rw [← Option.isNone_iff_eq_none]
    decide +kernel
  have hlarger : (Fixture.registry Fixture.ticket).Within larger :=
    hmoved.trans (Within.register hfree)
  obtain ⟨compiled, hcompile, -⟩ := Fixture.editTicket_compile
  exact ⟨hlarger, compiled, hcompile, hlarger.keeps_results.2.1 _ compiled hcompile⟩

end Ontology
