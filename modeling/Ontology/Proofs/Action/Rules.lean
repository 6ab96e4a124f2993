import Ontology.Proofs.Action.Scope
import Ontology.Action.Binding

/-!
The rules of an action and the parameters that they read. `Rule.Fits` lists what a rule that is
written by hand must satisfy, and `check_eq_ok_iff` says that the check accepts these rules and no
others. What a rule reads is declared as soon as the rule is grounded: its targets are declared, and
its values have passed a check each (`Grounded.declares`).
-/

set_option autoImplicit false
set_option relaxedAutoImplicit false

namespace Ontology

open Outcome

variable {registry : Registry} {scope : Scope} {rule : Rule}

/-! ### Parameters of a rule -/

namespace Rule

/-- The parameters that say what a rule works on. -/
def targets : Rule → List String
  | .addObject _ _ => []
  | .modifyObject target _ | .deleteObject target | .addOrModifyObject target _ => [target]
  | .addInterface _ objectType _ => [objectType]
  | .modifyInterface _ target objectType _ => target :: objectType.toList

/-- The values that a rule writes. -/
def values : Rule → List ValueSource
  | .addObject _ values | .modifyObject _ values | .addOrModifyObject _ values =>
    values.map (·.value)
  | .addInterface _ _ values | .modifyInterface _ _ _ values => values.map (·.value)
  | .deleteObject _ => []

/-- The ids of the parameters that a rule reads. -/
def parameters (rule : Rule) : List String :=
  rule.targets ++ rule.values.filterMap (·.parameter?)

end Rule

/-! ### Values -/

/-- A value that is accepted reads a declared parameter, if any. -/
theorem ValueSource.declares_of_check {property : String} {type : PropertyType} {id : String}
    {value : ValueSource} (h : value.check registry scope property type = .ok ())
    (hid : value.parameter? = some id) : scope.declares id := by
  unfold check at h
  obtain ⟨_, hdeclared, -⟩ := bind_eq_ok_iff.mp h
  rw [hid, Option.toList_some, checkDeclared_eq_ok_iff] at hdeclared
  exact hdeclared id List.mem_cons_self

/-- A declared parameter is accepted as the value of any property. -/
theorem ValueSource.check_parameter {property : String} {type : PropertyType} {id : String}
    (hid : scope.declares id) :
    (ValueSource.parameter id).check registry scope property type = .ok () := by
  rw [check, bind_eq_ok_iff]
  refine ⟨(), ?_, rfl⟩
  rw [parameter?, Option.toList_some, checkDeclared_eq_ok_iff]
  intro other hother
  rw [List.mem_singleton.mp hother]
  exact hid

/-! ### Rules written by hand -/

namespace Rule

theorem targetObject_eq_ok_iff {parameter : String} {role : TargetRole} {objectType : Identifier} :
    targetObject scope parameter role = .ok objectType ↔
      scope.type? parameter = some (.objectReference objectType) := by
  simp only [targetObject, bind_eq_ok_iff, Scope.require_eq_ok_iff]
  constructor
  · rintro ⟨type, htype, h⟩
    split at h
    · rw [pure_eq_ok_iff] at h
      rw [htype, h]
    · simp at h
  · intro h
    exact ⟨_, h, rfl⟩

/-- Bindings on an object pass when each value is accepted for the property of its name. -/
theorem checkObjectBindings_eq_ok_iff {objectType : Identifier} {bindings : List ObjectBinding} :
    checkObjectBindings registry scope objectType bindings = .ok () ↔
      ∃ object, registry.objectType? objectType = some object ∧
        ∀ binding ∈ bindings, ∃ property, object.property? binding.property = some property ∧
          binding.value.check registry scope binding.property property.type = .ok () := by
  unfold checkObjectBindings
  cases registry.objectType? objectType with
  | none => simp
  | some object =>
    simp only [forM_eq_ok_iff, Option.some.injEq, exists_eq_left']
    refine forall₂_congr fun binding _ ↦ ?_
    cases object.property? binding.property with
    | none => simp
    | some property => simp

/-- Bindings on an interface pass when each value is accepted for an effective property. -/
theorem checkInterfaceBindings_eq_ok_iff {interfaceType : Identifier}
    {bindings : List InterfaceBinding} :
    checkInterfaceBindings registry scope interfaceType bindings = .ok () ↔
      ∃ effective, registry.interfaceProperties interfaceType = .ok effective ∧
        ∀ binding ∈ bindings, ∃ property,
          effective.find? (·.id = binding.property) = some property ∧
            binding.value.check registry scope binding.property.text property.type = .ok () := by
  simp only [checkInterfaceBindings, ActionError.ofSchema, bind_eq_ok_iff, mapError_eq_ok_iff,
    forM_eq_ok_iff]
  refine exists_congr fun effective ↦ and_congr_right fun _ ↦ forall₂_congr fun binding _ ↦ ?_
  cases effective.find? (·.id = binding.property) with
  | none => simp
  | some property => simp

/-- A rule fits when its targets are parameters of the types that their roles ask for, and its
values are bound to properties of the entity that it works on. -/
inductive Fits (registry : Registry) (scope : Scope) : Rule → Prop
  | addObject {objectType : Identifier} {values : List ObjectBinding}
      (hvalues : checkObjectBindings registry scope objectType values = .ok ()) :
      Fits registry scope (.addObject objectType values)
  | modifyObject {target : String} {objectType : Identifier} {values : List ObjectBinding}
      (htarget : scope.type? target = some (.objectReference objectType))
      (hvalues : checkObjectBindings registry scope objectType values = .ok ()) :
      Fits registry scope (.modifyObject target values)
  | addOrModifyObject {target : String} {objectType : Identifier} {values : List ObjectBinding}
      (htarget : scope.type? target = some (.objectReference objectType))
      (hvalues : checkObjectBindings registry scope objectType values = .ok ()) :
      Fits registry scope (.addOrModifyObject target values)
  | deleteObject {target : String} {id : Identifier}
      (htarget : scope.type? target = some (.objectReference id) ∨
        scope.type? target = some (.interfaceReference id)) :
      Fits registry scope (.deleteObject target)
  | addInterface {interfaceType : Identifier} {objectType : String}
      {values : List InterfaceBinding} (hobjectType : scope.declares objectType)
      (hvalues : checkInterfaceBindings registry scope interfaceType values = .ok ()) :
      Fits registry scope (.addInterface interfaceType objectType values)
  | modifyInterface {interfaceType : Identifier} {target : String} {objectType : Option String}
      {values : List InterfaceBinding} (htarget : scope.declares target)
      (hobjectType : ∀ id ∈ objectType, scope.declares id)
      (hvalues : checkInterfaceBindings registry scope interfaceType values = .ok ()) :
      Fits registry scope (.modifyInterface interfaceType target objectType values)

/-- The check accepts the rules that fit and no others. -/
theorem check_eq_ok_iff : rule.check registry scope = .ok () ↔ rule.Fits registry scope := by
  constructor
  · intro h
    cases rule with
    | addObject objectType values => exact .addObject h
    | modifyObject target values =>
      simp only [check, bind_eq_ok_iff, targetObject_eq_ok_iff] at h
      obtain ⟨objectType, htarget, hvalues⟩ := h
      exact .modifyObject htarget hvalues
    | addOrModifyObject target values =>
      simp only [check, bind_eq_ok_iff, targetObject_eq_ok_iff] at h
      obtain ⟨objectType, htarget, hvalues⟩ := h
      exact .addOrModifyObject htarget hvalues
    | deleteObject target =>
      simp only [check, bind_eq_ok_iff, Scope.require_eq_ok_iff] at h
      obtain ⟨type, htype, h⟩ := h
      split at h
      · exact .deleteObject (.inl htype)
      · exact .deleteObject (.inr htype)
      · simp at h
    | addInterface interfaceType objectType values =>
      simp only [check, bind_eq_ok_iff] at h
      obtain ⟨type, htype, hvalues⟩ := h
      exact .addInterface (Scope.declares_of_require htype) hvalues
    | modifyInterface interfaceType target objectType values =>
      cases objectType with
      | none =>
        simp only [check, bind_eq_ok_iff] at h
        obtain ⟨type, htype, hvalues⟩ := h
        exact .modifyInterface (Scope.declares_of_require htype) (by simp) hvalues
      | some objectType =>
        simp only [check, bind_eq_ok_iff] at h
        obtain ⟨type, htype, chosen, hchosen, hvalues⟩ := h
        refine .modifyInterface (Scope.declares_of_require htype) ?_ hvalues
        rintro _ ⟨⟩
        exact Scope.declares_of_require hchosen
  · intro h
    cases h with
    | addObject hvalues => exact hvalues
    | modifyObject htarget hvalues | addOrModifyObject htarget hvalues =>
      simp only [check, bind_eq_ok_iff, targetObject_eq_ok_iff]
      exact ⟨_, htarget, hvalues⟩
    | deleteObject htarget =>
      simp only [check, bind_eq_ok_iff, Scope.require_eq_ok_iff]
      rcases htarget with htarget | htarget
      · exact ⟨_, htarget, rfl⟩
      · exact ⟨_, htarget, rfl⟩
    | addInterface hobjectType hvalues =>
      obtain ⟨type, htype⟩ := Option.isSome_iff_exists.mp hobjectType
      simp only [check, bind_eq_ok_iff, Scope.require_eq_ok_iff]
      exact ⟨type, htype, hvalues⟩
    | @modifyInterface _ _ objectType _ htarget hobjectType hvalues =>
      obtain ⟨type, htype⟩ := Option.isSome_iff_exists.mp htarget
      cases objectType with
      | none =>
        simp only [check, bind_eq_ok_iff, Scope.require_eq_ok_iff]
        exact ⟨type, htype, hvalues⟩
      | some objectType =>
        obtain ⟨chosen, hchosen⟩ := Option.isSome_iff_exists.mp (hobjectType objectType rfl)
        simp only [check, bind_eq_ok_iff, Scope.require_eq_ok_iff]
        exact ⟨type, htype, chosen, hchosen, hvalues⟩

theorem check_of_checkObjectBindings {objectType : Identifier} {bindings : List ObjectBinding}
    (h : checkObjectBindings registry scope objectType bindings = .ok ()) :
    ∀ value ∈ bindings.map (·.value),
      ∃ property type, value.check registry scope property type = .ok () := by
  obtain ⟨object, -, hbindings⟩ := checkObjectBindings_eq_ok_iff.mp h
  intro value hvalue
  obtain ⟨binding, hbinding, rfl⟩ := List.mem_map.mp hvalue
  obtain ⟨property, -, hcheck⟩ := hbindings binding hbinding
  exact ⟨_, _, hcheck⟩

theorem check_of_checkInterfaceBindings {interfaceType : Identifier}
    {bindings : List InterfaceBinding}
    (h : checkInterfaceBindings registry scope interfaceType bindings = .ok ()) :
    ∀ value ∈ bindings.map (·.value),
      ∃ property type, value.check registry scope property type = .ok () := by
  obtain ⟨effective, -, hbindings⟩ := checkInterfaceBindings_eq_ok_iff.mp h
  intro value hvalue
  obtain ⟨binding, hbinding, rfl⟩ := List.mem_map.mp hvalue
  obtain ⟨property, -, hcheck⟩ := hbindings binding hbinding
  exact ⟨_, _, hcheck⟩

/-- The targets of a rule are declared, and each of its values is accepted for some property. -/
structure Grounded (registry : Registry) (scope : Scope) (rule : Rule) : Prop where
  targets : ∀ id ∈ rule.targets, scope.declares id
  values : ∀ value ∈ rule.values, ∃ property type, value.check registry scope property type = .ok ()

/-- Such a rule reads declared parameters only. -/
theorem Grounded.declares (h : rule.Grounded registry scope) :
    ∀ id ∈ rule.parameters, scope.declares id := by
  intro id hid
  rw [parameters, List.mem_append, List.mem_filterMap] at hid
  rcases hid with htargets | ⟨value, hvalue, hread⟩
  · exact h.targets id htargets
  · obtain ⟨property, type, hcheck⟩ := h.values value hvalue
    exact ValueSource.declares_of_check hcheck hread

theorem Fits.declares_targets (h : rule.Fits registry scope) :
    ∀ id ∈ rule.targets, scope.declares id := by
  intro id hid
  cases h with
  | addObject => cases hid
  | modifyObject htarget | addOrModifyObject htarget =>
    rw [List.mem_singleton.mp hid]
    exact Scope.declares_of_type? htarget
  | deleteObject htarget =>
    rw [List.mem_singleton.mp hid]
    rcases htarget with htarget | htarget
    · exact Scope.declares_of_type? htarget
    · exact Scope.declares_of_type? htarget
  | addInterface hobjectType =>
    rw [List.mem_singleton.mp hid]
    exact hobjectType
  | modifyInterface htarget hobjectType =>
    rcases List.mem_cons.mp hid with rfl | hchosen
    · exact htarget
    · exact hobjectType id (Option.mem_toList.mp hchosen)

theorem Fits.check_values (h : rule.Fits registry scope) :
    ∀ value ∈ rule.values, ∃ property type, value.check registry scope property type = .ok () := by
  cases h with
  | deleteObject => simp [values]
  | addObject hvalues | modifyObject _ hvalues | addOrModifyObject _ hvalues =>
    exact check_of_checkObjectBindings hvalues
  | addInterface _ hvalues | modifyInterface _ _ hvalues =>
    exact check_of_checkInterfaceBindings hvalues

/-- A rule that fits is grounded. -/
theorem Fits.grounded (h : rule.Fits registry scope) : rule.Grounded registry scope :=
  ⟨h.declares_targets, h.check_values⟩

end Rule

end Ontology
