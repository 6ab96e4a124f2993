import Ontology.Proofs.Action.Elaboration
import Ontology.Proofs.Action.GeneratedRules

/-!
The literals in a compiled action. They stand in the settings of its parameters, as values that a
form starts with or as values that are allowed, by default or while a condition holds
(`ParameterValidation.prefills`, `ParameterValidation.allowed`), and in its rules, bound to
properties (`Rule.bindings`).

All settings of a parameter have passed their checks, those that follow from the type included
(`ParameterSketch.checked_of_validation`). A literal that a rule binds has passed the check for the
property of its key: in a rule that is written by hand for the property of the entity that the rule
works on (`Rule.Fits.admits`), in a generated rule for every property of the target with that key
(`CrudDefinition.check_of_mem_bindings`). So every literal has the type of the place where it
stands (`compile_staticValues`).
-/

set_option autoImplicit false
set_option relaxedAutoImplicit false

namespace Ontology

open Outcome

variable {registry : Registry} {scope : Scope} {id : String} {type : ParameterType}
  {key : String} {value : Literal}

/-! ### Settings of parameters -/

namespace Effect

/-- The prefill that an effect sets. -/
def prefill? : Effect → Option Prefill
  | .prefilled value => some value
  | _ => none

/-- The allowed values that an effect sets. -/
def allowed? : Effect → Option AllowedValues
  | .allowedValues allowed => some allowed
  | _ => none

/-- What an effect sets passes the check for a type. -/
structure Checked (id : String) (type : ParameterType) (effect : Effect) : Prop where
  prefill : ∀ prefill ∈ effect.prefill?, prefill.check id type = .ok ()
  allowed : ∀ allowed ∈ effect.allowed?, allowed.check id type = .ok ()

end Effect

namespace ParameterValidation

/-- The effects that may apply, under whatever condition. -/
def effects (validation : ParameterValidation) : List Effect :=
  validation.overrides.flatMap (·.effects)

/-- The prefills of a parameter, by default or while a condition holds. -/
def prefills (validation : ParameterValidation) : List Prefill :=
  validation.default.prefilled.toList ++ validation.effects.filterMap (·.prefill?)

/-- The allowed values of a parameter, by default or while a condition holds. -/
def allowed (validation : ParameterValidation) : List AllowedValues :=
  validation.default.allowedValues :: validation.effects.filterMap (·.allowed?)

/-- All prefills and allowed values pass the checks for a type. -/
structure Checked (id : String) (type : ParameterType) (validation : ParameterValidation) :
    Prop where
  prefills : ∀ prefill ∈ validation.prefills, prefill.check id type = .ok ()
  allowed : ∀ allowed ∈ validation.allowed, allowed.check id type = .ok ()

end ParameterValidation

theorem checkStaticValue_eq_ok_iff :
    checkStaticValue id type value = .ok () ↔ type.admits value := by
  unfold checkStaticValue
  split <;> simp_all

theorem Prefill.admits_of_check (h : (Prefill.literal value).check id type = .ok ()) :
    type.admits value :=
  checkStaticValue_eq_ok_iff.mp h

theorem AllowedValues.admits_of_check {values : List Literal}
    (h : (AllowedValues.oneOf values).check id type = .ok ()) :
    ∀ value ∈ values, type.itemType.admits value :=
  fun value hvalue ↦ checkStaticValue_eq_ok_iff.mp (forM_eq_ok_iff.mp h value hvalue)

/-- What a type allows of itself enumerates no values. -/
theorem ParameterType.check_allowedValues (type other : ParameterType) :
    type.allowedValues.check id other = .ok () := by
  induction type with
  | list item ih => exact ih
  | _ => rfl

theorem Effect.checked_of_normalize {effect normal : Effect}
    (h : effect.normalize id type = .ok normal) : normal.Checked id type := by
  cases effect with
  | visibility =>
    cases h
    constructor
    · rintro _ ⟨⟩
    · rintro _ ⟨⟩
  | prefilled prefill =>
    simp only [normalize, bind_eq_ok_iff, pure_eq_ok_iff] at h
    obtain ⟨_, hcheck, rfl⟩ := h
    constructor
    · rintro _ ⟨⟩
      exact hcheck
    · rintro _ ⟨⟩
  | allowedValues allowed =>
    simp only [normalize, bind_eq_ok_iff, pure_eq_ok_iff] at h
    obtain ⟨_, hcheck, rfl⟩ := h
    constructor
    · rintro _ ⟨⟩
    · rintro _ ⟨⟩
      exact hcheck
  | requirement demanded =>
    -- A requirement stays one, be it as it was or rewritten to bounds.
    obtain ⟨settled, rfl⟩ : ∃ settled, normal = .requirement settled := by
      unfold normalize at h
      dsimp only at h
      split at h
      · cases h
        exact ⟨_, rfl⟩
      · simp only [bind_eq_ok_iff, pure_eq_ok_iff] at h
        obtain ⟨_, -, rfl⟩ := h
        exact ⟨_, rfl⟩
    constructor
    · rintro _ ⟨⟩
    · rintro _ ⟨⟩

namespace ParameterDraft

variable {draft : ParameterDraft}

theorem check_configuredValues {base allowed : AllowedValues} (hbase : base.check id type = .ok ())
    (h : draft.configuredValues id type base = .ok allowed) : allowed.check id type = .ok () := by
  rw [configuredValues] at h
  split at h
  · cases h
    exact hbase
  · simp only [bind_eq_ok_iff, pure_eq_ok_iff] at h
    obtain ⟨_, hcheck, rfl⟩ := h
    exact hcheck

theorem check_configuredPrefill {base prefilled : Option Prefill}
    (hbase : ∀ prefill ∈ base, prefill.check id type = .ok ())
    (h : draft.configuredPrefill id type base = .ok prefilled) :
    ∀ prefill ∈ prefilled, prefill.check id type = .ok () := by
  rw [configuredPrefill] at h
  split at h
  · cases h
    exact hbase
  · simp only [bind_eq_ok_iff, pure_eq_ok_iff] at h
    obtain ⟨_, hcheck, rfl⟩ := h
    rintro _ ⟨⟩
    exact hcheck

end ParameterDraft

theorem EffectsDraft.checked_of_compile {draft : EffectsDraft} {change : ConditionalEffects}
    (h : draft.compile scope id type = .ok change) :
    ∀ effect ∈ change.effects, effect.Checked id type := by
  simp only [compile, bind_eq_ok_iff, pure_eq_ok_iff] at h
  obtain ⟨_, -, normals, hnormals, rfl⟩ := h
  intro effect heffect
  obtain ⟨_, -, hnormalize⟩ := exists_of_mem_mapM hnormals heffect
  exact Effect.checked_of_normalize hnormalize

/-- Settings pass when the default ones do and every effect does. -/
theorem ParameterValidation.checked_of_effects {validation : ParameterValidation}
    (hprefilled : ∀ prefill ∈ validation.default.prefilled, prefill.check id type = .ok ())
    (hallowed : validation.default.allowedValues.check id type = .ok ())
    (heffects : ∀ change ∈ validation.overrides, ∀ effect ∈ change.effects,
      effect.Checked id type) : validation.Checked id type := by
  have hall : ∀ effect ∈ validation.effects, effect.Checked id type := by
    intro effect heffect
    obtain ⟨change, hchange, heffect⟩ := List.mem_flatMap.mp heffect
    exact heffects change hchange effect heffect
  refine ⟨fun prefill hmem ↦ ?_, fun allowed hmem ↦ ?_⟩
  · rcases List.mem_append.mp hmem with hdefault | heffect
    · exact hprefilled prefill (Option.mem_toList.mp hdefault)
    · obtain ⟨effect, heffect, hsets⟩ := List.mem_filterMap.mp heffect
      exact (hall effect heffect).prefill prefill hsets
  · rcases List.mem_cons.mp hmem with rfl | heffect
    · exact hallowed
    · obtain ⟨effect, heffect, hsets⟩ := List.mem_filterMap.mp heffect
      exact (hall effect heffect).allowed allowed hsets

/-- All settings of a parameter pass the checks for its type. -/
theorem ParameterSketch.checked_of_validation {sketch : ParameterSketch}
    {draft : Option ParameterDraft} {validation : ParameterValidation}
    (h : sketch.validation scope draft = .ok validation) :
    validation.Checked sketch.id sketch.type := by
  have hallowed : sketch.base.allowedValues.check sketch.id sketch.type = .ok () :=
    sketch.type.check_allowedValues sketch.type
  have hprefilled : ∀ prefill ∈ sketch.base.prefilled,
      prefill.check sketch.id sketch.type = .ok () := by
    rintro _ ⟨⟩
  cases draft with
  | none =>
    cases h
    exact ParameterValidation.checked_of_effects hprefilled hallowed (by simp)
  | some draft =>
    simp only [ParameterSketch.validation, ParameterDraft.configure, ParameterDraft.configureBlock,
      bind_eq_ok_iff, pure_eq_ok_iff] at h
    obtain ⟨_, ⟨values, hvalues, _, -, prefilled, hprefill, rfl⟩, overrides, hoverrides, rfl⟩ := h
    refine ParameterValidation.checked_of_effects
      (ParameterDraft.check_configuredPrefill hprefilled hprefill)
      (ParameterDraft.check_configuredValues hallowed hvalues) fun change hchange ↦ ?_
    obtain ⟨_, -, hcompile⟩ := exists_of_mem_mapM hoverrides hchange
    exact EffectsDraft.checked_of_compile hcompile

/-! ### Properties of entities -/

namespace Registry

/-- The entity has a property of a key, parameters can be of its type, and they admit a literal. -/
def Admits (registry : Registry) (owner : PropertyOwner) (key : String) (value : Literal) : Prop :=
  ∃ type expected, registry.propertyType owner key = .ok type ∧
    type.parameterType? = some expected ∧ expected.admits value

theorem admits_of_check {owner : PropertyOwner} {property : String} {type : PropertyType}
    (htype : registry.propertyType owner key = .ok type)
    (hcheck : (ValueSource.literal value).check registry scope property type = .ok ()) :
    registry.Admits owner key value := by
  simp only [ValueSource.check, bind_eq_ok_iff] at hcheck
  obtain ⟨_, -, hcheck⟩ := hcheck
  split at hcheck
  · simp at hcheck
  · next expected hexpected =>
    split at hcheck
    · next hadmits => exact ⟨type, expected, htype, hexpected, hadmits⟩
    · simp at hcheck

theorem propertyType_object {id : Identifier} {object : ObjectType} {property : ObjectProperty}
    (hobject : registry.objectType? id = some object)
    (hproperty : object.property? key = some property) :
    registry.propertyType (.object id) key = .ok property.type := by
  rw [ObjectType.property?] at hproperty
  simp only [propertyType, objectProperties, hobject, bind_eq_ok_iff]
  exact ⟨_, rfl, by rw [hproperty]; rfl⟩

theorem propertyType_interface {id property : Identifier} {effective : List EffectiveProperty}
    {found : EffectiveProperty} (heffective : registry.interfaceProperties id = .ok effective)
    (hfound : effective.find? (·.id = property) = some found) :
    registry.propertyType (.interface id) property.text = .ok found.type := by
  have hkeys : (fun found : EffectiveProperty ↦ decide (found.id.text = property.text)) =
      fun found ↦ decide (found.id = property) := by
    funext found
    rw [decide_eq_decide]
    exact ⟨congrArg Identifier.mk, congrArg Identifier.text⟩
  simp only [propertyType, bind_eq_ok_iff]
  exact ⟨effective, heffective, by rw [hkeys, hfound]; rfl⟩

end Registry

/-! ### Bindings -/

open Registry (PropertyOwner)

namespace Rule

/-- The properties that a rule writes, by their keys, with the values. -/
def bindings : Rule → List (String × ValueSource)
  | .addObject _ values | .modifyObject _ values | .addOrModifyObject _ values =>
    values.map fun binding ↦ (binding.property, binding.value)
  | .addInterface _ _ values | .modifyInterface _ _ _ values =>
    values.map fun binding ↦ (binding.property.text, binding.value)
  | .deleteObject _ => []

/-- The entity whose properties a rule writes: the one that the rule names, or else the object type
behind the parameter that it works on. -/
def owner? (scope : Scope) : Rule → Option PropertyOwner
  | .addObject objectType _ => some (.object objectType)
  | .modifyObject target _ | .addOrModifyObject target _ =>
    match scope.type? target with
    | some (.objectReference objectType) => some (.object objectType)
    | _ => none
  | .addInterface interfaceType _ _ | .modifyInterface interfaceType _ _ _ =>
    some (.interface interfaceType)
  | .deleteObject _ => none

theorem admits_of_checkObjectBindings {objectType : Identifier} {values : List ObjectBinding}
    (h : checkObjectBindings registry scope objectType values = .ok ())
    (hmem : (key, .literal value) ∈
      values.map fun binding ↦ (binding.property, binding.value)) :
    registry.Admits (.object objectType) key value := by
  obtain ⟨object, hobject, hvalues⟩ := checkObjectBindings_eq_ok_iff.mp h
  obtain ⟨⟨property, source⟩, hbinding, hsame⟩ := List.mem_map.mp hmem
  cases hsame
  obtain ⟨declared, hdeclared, hcheck⟩ := hvalues _ hbinding
  exact Registry.admits_of_check (Registry.propertyType_object hobject hdeclared) hcheck

theorem admits_of_checkInterfaceBindings {interfaceType : Identifier}
    {values : List InterfaceBinding}
    (h : checkInterfaceBindings registry scope interfaceType values = .ok ())
    (hmem : (key, .literal value) ∈
      values.map fun binding ↦ (binding.property.text, binding.value)) :
    registry.Admits (.interface interfaceType) key value := by
  obtain ⟨effective, heffective, hvalues⟩ := checkInterfaceBindings_eq_ok_iff.mp h
  obtain ⟨⟨property, source⟩, hbinding, hsame⟩ := List.mem_map.mp hmem
  cases hsame
  obtain ⟨found, hfound, hcheck⟩ := hvalues _ hbinding
  exact Registry.admits_of_check (Registry.propertyType_interface heffective hfound) hcheck

/-- The literals in a rule that fits have the types of the properties that they are bound to. -/
theorem Fits.admits {rule : Rule} (h : rule.Fits registry scope)
    (hmem : (key, .literal value) ∈ rule.bindings) :
    ∃ owner, rule.owner? scope = some owner ∧ registry.Admits owner key value := by
  cases h with
  | addObject hvalues => exact ⟨_, rfl, admits_of_checkObjectBindings hvalues hmem⟩
  | modifyObject htarget hvalues | addOrModifyObject htarget hvalues =>
    refine ⟨_, ?_, admits_of_checkObjectBindings hvalues hmem⟩
    rw [owner?, htarget]
  | deleteObject => cases hmem
  | addInterface _ hvalues | modifyInterface _ _ hvalues =>
    exact ⟨_, rfl, admits_of_checkInterfaceBindings hvalues hmem⟩

end Rule

/-! ### Bindings of generated rules -/

/-- The entity that a generated action works on, as the owner of its properties. -/
def CrudTarget.owner : CrudTarget → PropertyOwner
  | .object id => .object id
  | .interface id => .interface id

/-- What the registry says of the type under a key is the type of a property of the target. -/
theorem ActionTarget.exists_propertyType {named : CrudTarget} {target : ActionTarget}
    {property : TargetProperty} (h : resolve registry named = .ok target)
    (hproperty : property ∈ target.properties) :
    ∃ first ∈ target.properties, first.key = property.key ∧
      registry.propertyType named.owner property.key = .ok first.type := by
  rcases resolve_eq_ok_iff.mp h with ⟨id, object, rfl, hobject, rfl⟩ |
    ⟨id, interface, effective, rfl, -, heffective, -, rfl⟩
  · obtain ⟨declared, hdeclared, rfl⟩ := List.mem_map.mp hproperty
    obtain ⟨first, hfirst, hname⟩ := Lookup.exists_find? (·.apiName) hdeclared
    exact ⟨first.toTarget, List.mem_map_of_mem (List.mem_of_find?_eq_some hfirst), hname,
      Registry.propertyType_object hobject hfirst⟩
  · obtain ⟨declared, hdeclared, rfl⟩ := List.mem_map.mp hproperty
    obtain ⟨first, hfirst, hid⟩ := Lookup.exists_find? (·.id) hdeclared
    exact ⟨first.toTarget, List.mem_map_of_mem (List.mem_of_find?_eq_some hfirst),
      congrArg Identifier.text hid, Registry.propertyType_interface heffective hfirst⟩

namespace CrudDefinition

variable {definition : CrudDefinition} {target : ActionTarget} {rule : Rule}
  {bound : List (String × ValueSource)}

/-- A literal is bound only where the definition fixes a property to it. -/
theorem fixedValue?_of_binding? {property : TargetProperty}
    (h : definition.binding? registry scope property = .ok (some (key, .literal value))) :
    definition.fixedValue? property.key = some (.literal value) := by
  unfold binding? at h
  split at h
  · next source hfixed =>
    simp only [bind_eq_ok_iff, pure_eq_ok_iff, Option.some.injEq, Prod.mk.injEq] at h
    obtain ⟨_, -, -, rfl⟩ := h
    exact hfixed
  · split_ifs at h <;> cases h

/-- A literal that is bound under a key has passed the check for every property of that key, since
all of them are fixed to it. -/
theorem check_of_mem_bindings (h : definition.bindings registry scope target = .ok bound)
    (hmem : (key, .literal value) ∈ bound) :
    ∀ property ∈ target.properties, property.key = key →
      (ValueSource.literal value).check registry scope property.key property.type = .ok () := by
  simp only [bindings, bind_eq_ok_iff, pure_eq_ok_iff] at h
  obtain ⟨found, hfound, rfl⟩ := h
  obtain ⟨_, hmem, rfl⟩ := List.mem_filterMap.mp hmem
  obtain ⟨written, hwritten, hbound⟩ := exists_of_mem_mapM hfound hmem
  obtain ⟨rfl, -⟩ := binding?_check hbound
  intro property hproperty hkey
  have hfixed : definition.fixedValue? property.key = some (.literal value) :=
    hkey ▸ fixedValue?_of_binding? hbound
  have hkept : property ∈ target.properties.filter fun property ↦
      !definition.isKeptKey target property.key := by
    rw [List.mem_filter, hkey]
    exact ⟨hproperty, (List.mem_filter.mp hwritten).2⟩
  obtain ⟨_, -, hbinding⟩ := exists_ok_of_mem_mapM hfound hkept
  rw [binding?, hfixed] at hbinding
  simp only [bind_eq_ok_iff] at hbinding
  obtain ⟨_, hcheck, -⟩ := hbinding
  exact hcheck

/-- A generated rule has the bindings of the definition, or none if it deletes. -/
theorem Emits.bindings_eq (h : definition.Emits registry scope target rule) :
    definition.kind = .delete ∧ rule.bindings = [] ∨
      definition.kind ≠ .delete ∧
        definition.bindings registry scope target = .ok rule.bindings := by
  cases h with
  | deleteObject hkind => exact .inl ⟨hkind, rfl⟩
  | addObject _ hkind hvalues | modifyObject _ hkind _ hvalues
  | addOrModifyObject _ hkind _ hvalues =>
    simp only [objectBindings, bind_eq_ok_iff, pure_eq_ok_iff] at hvalues
    obtain ⟨bound, hbound, rfl⟩ := hvalues
    rw [Rule.bindings, List.map_map, hkind]
    exact .inr ⟨by decide, hbound.trans (congrArg Except.ok (List.map_id bound).symm)⟩
  | addInterface _ hkind _ hvalues | modifyInterface _ hkind _ hvalues
  | addOrModifyInterface _ hkind _ _ hvalues =>
    simp only [interfaceBindings, bind_eq_ok_iff, pure_eq_ok_iff] at hvalues
    obtain ⟨bound, hbound, rfl⟩ := hvalues
    rw [Rule.bindings, List.map_map, hkind]
    exact .inr ⟨by decide, hbound.trans (congrArg Except.ok (List.map_id bound).symm)⟩

/-- The literals in a generated rule have the types of the properties that they are bound to. -/
theorem Emits.admits (htarget : ActionTarget.resolve registry definition.target = .ok target)
    (h : definition.Emits registry scope target rule)
    (hmem : (key, .literal value) ∈ rule.bindings) :
    registry.Admits definition.target.owner key value := by
  rcases h.bindings_eq with ⟨-, hnone⟩ | ⟨-, hbindings⟩
  · rw [hnone] at hmem
    cases hmem
  · obtain ⟨property, hproperty, hkey, -⟩ := bindings_check hbindings _ hmem
    obtain ⟨first, hfirst, hfirstKey, htype⟩ :=
      ActionTarget.exists_propertyType htarget hproperty
    have hcheck := check_of_mem_bindings hbindings hmem first hfirst (hfirstKey.trans hkey.symm)
    rw [← hkey] at htype
    exact Registry.admits_of_check htype hcheck

end CrudDefinition

/-! ### Compiled actions -/

/-- What agrees with a flag is this flag. -/
theorem ValueSource.eq_of_beq_boolean {source : ValueSource} {flag : Bool}
    (h : source == .literal (.boolean flag)) : source = .literal (.boolean flag) := by
  cases source with
  | literal value =>
    cases value with
    | boolean other =>
      have hsame : other == flag := h
      rw [eq_of_beq hsame]
    | _ => cases h
  | _ => cases h

/-- The parameters of an action as a scope. -/
def ActionType.parameterScope (action : ActionType) : Scope :=
  ⟨action.parameters.map fun parameter ↦ (parameter.id, parameter.type)⟩

namespace ActionDefinition

variable {definition : ActionDefinition} {elaboration : Elaboration} {compiled : CompiledAction}

/-- The entity whose properties a rule of the action writes. A generated action writes those of its
target, whatever its parameters are called. -/
def owner? (scope : Scope) (rule : Rule) : ActionDefinition → Option PropertyOwner
  | .generated definition => some definition.target.owner
  | .manual _ => rule.owner? scope

/-- The literals in the rules have the types of the properties that they are bound to. -/
theorem admits_of_elaborate {rule : Rule} (h : definition.elaborate registry = .ok elaboration)
    (hrule : rule ∈ elaboration.rules) (hmem : (key, .literal value) ∈ rule.bindings) :
    ∃ owner, definition.owner? elaboration.scope rule = some owner ∧
      registry.Admits owner key value := by
  cases definition with
  | generated definition =>
    obtain ⟨target, htarget, -, -, ⟨emitted, hemitted, hrules⟩, -⟩ :=
      CrudDefinition.elaborate_eq_ok_iff.mp h
    rw [hrules, List.mem_singleton] at hrule
    subst hrule
    exact ⟨_, rfl, (CrudDefinition.emits_of_rule hemitted).admits htarget hmem⟩
  | manual definition =>
    obtain ⟨-, -, hpass, -, hrules, -⟩ := ManualDefinition.elaborate_eq_ok_iff.mp h
    exact (Rule.check_eq_ok_iff.mp (hpass rule (hrules ▸ hrule))).admits hmem

/-- Every literal in an action that compiles has the type of its place: prefills have the type of
their parameter and allowed values that of its items, by default and while a condition holds, and
what a rule binds to a property has the type of the parameters for this property. -/
theorem compile_staticValues (h : definition.compile registry = .ok compiled) :
    (∀ parameter ∈ compiled.actionType.parameters,
      (∀ value, .literal value ∈ parameter.validation.prefills → parameter.type.admits value) ∧
      ∀ values, .oneOf values ∈ parameter.validation.allowed →
        ∀ value ∈ values, parameter.type.itemType.admits value) ∧
    ∀ rule ∈ compiled.actionType.logic, ∀ key value, (key, .literal value) ∈ rule.bindings →
      ∃ owner, definition.owner? compiled.actionType.parameterScope rule = some owner ∧
        registry.Admits owner key value := by
  obtain ⟨elaboration, helaborate, ordering, -, hassemble⟩ := compile_eq_ok_iff.mp h
  obtain ⟨layout, -, submission, -, rfl⟩ := ActionFrame.assemble_eq_ok_iff.mp hassemble
  have hbuilt := exists_build_of_elaborate helaborate
  refine ⟨fun parameter hparameter ↦ ?_, fun rule hrule key value hmem ↦ ?_⟩
  · obtain ⟨sketch, -, draft, hbuild⟩ := exists_of_mem_forall₂ hbuilt hparameter
    obtain ⟨validation, hvalidation, rfl⟩ := ParameterSketch.build_eq_ok_iff.mp hbuild
    have hchecked := ParameterSketch.checked_of_validation hvalidation
    exact ⟨fun value hvalue ↦ Prefill.admits_of_check (hchecked.prefills _ hvalue),
      fun values hvalues ↦ AllowedValues.admits_of_check (hchecked.allowed _ hvalues)⟩
  · have hscope : elaboration.scope =
        ⟨elaboration.parameters.map fun parameter ↦ (parameter.id, parameter.type)⟩ := by
      rw [Elaboration.scope, ParameterSketch.scope, Scope.mk.injEq, ← List.forall₂_eq_eq_eq,
        List.forall₂_map_left_iff, List.forall₂_map_right_iff]
      refine hbuilt.imp fun sketch parameter hbuild ↦ ?_
      obtain ⟨draft, hbuild⟩ := hbuild
      obtain ⟨validation, -, rfl⟩ := ParameterSketch.build_eq_ok_iff.mp hbuild
      rfl
    have howner := admits_of_elaborate helaborate hrule hmem
    rw [hscope] at howner
    exact howner

/-- The action on tickets writes a flag to the property that it marks tickets with, which is a
property for flags. -/
theorem compile_staticValues_editTicket :
    ∃ compiled, (generated Fixture.editTicket).compile (Fixture.registry Fixture.ticket) =
        .ok compiled ∧
      (∃ rule ∈ compiled.actionType.logic,
        ("urgent", .literal (.boolean true)) ∈ rule.bindings) ∧
      (Fixture.registry Fixture.ticket).Admits (.object ⟨"com.example.ticket"⟩) "urgent"
        (.boolean true) := by
  have hcomputed : ((generated Fixture.editTicket).compile
      (Fixture.registry Fixture.ticket)).toOption.map (fun compiled ↦
        compiled.actionType.logic.any (·.bindings.any fun binding ↦
          binding.1 == "urgent" && binding.2 == .literal (.boolean true))) = some true := by
    decide +kernel
  obtain ⟨compiled, hcompile, hbound⟩ := exists_of_toOption_map hcomputed
  obtain ⟨rule, hrule, hbound⟩ := List.any_eq_true.mp hbound
  obtain ⟨⟨key, source⟩, hbinding, hview⟩ := List.any_eq_true.mp hbound
  obtain ⟨hkey, hsource⟩ := Bool.and_eq_true_iff.mp hview
  obtain rfl : key = "urgent" := eq_of_beq hkey
  obtain rfl := ValueSource.eq_of_beq_boolean hsource
  obtain ⟨owner, howner, hadmits⟩ :=
    (compile_staticValues hcompile).2 rule hrule "urgent" (.boolean true) hbinding
  cases howner
  exact ⟨compiled, hcompile, ⟨rule, hrule, hbinding⟩, hadmits⟩

end ActionDefinition

end Ontology
