import Ontology.Proofs.Action.Rules
import Ontology.Proofs.Action.Target

/-!
The rules of generated actions. `CrudDefinition.Emits` lists them by the kind of action and the kind
of target, and `emits_of_rule` says that there are no others. Every value that they write has passed
the check for the property that it is bound to, so they are grounded without having been checked as
a whole. Where the structural parameters have the types that they were given, the check of a whole
rule would accept them too (`Emits.fits`).
-/

set_option autoImplicit false
set_option relaxedAutoImplicit false

namespace Ontology.CrudDefinition

open Outcome

variable {registry : Registry} {scope : Scope} {rule : Rule} {definition : CrudDefinition}
  {target : ActionTarget}

/-! ### Bindings -/

theorem structuralId_eq_ok_iff {role : TargetRole} {id : String} :
    structuralId scope role = .ok id ↔ scope.declares role.parameterId ∧ role.parameterId = id := by
  simp only [structuralId, bind_eq_ok_iff, pure_eq_ok_iff, Scope.require_eq_ok_iff,
    exists_and_right, Scope.declares, Option.isSome_iff_exists]

/-- A property is bound to a value that its check accepts. -/
theorem binding?_check {property : TargetProperty} {key : String} {value : ValueSource}
    (h : definition.binding? registry scope property = .ok (some (key, value))) :
    key = property.key ∧ value.check registry scope property.key property.type = .ok () := by
  unfold binding? at h
  split at h
  · simp only [bind_eq_ok_iff, pure_eq_ok_iff, Option.some.injEq, Prod.mk.injEq] at h
    obtain ⟨_, hcheck, rfl, rfl⟩ := h
    exact ⟨rfl, hcheck⟩
  · split_ifs at h with hdeclared
    · cases h
      exact ⟨rfl, ValueSource.check_parameter hdeclared⟩
    · cases h

/-- Every value that is bound has passed the check for a property of the target. -/
theorem bindings_check {bound : List (String × ValueSource)}
    (h : definition.bindings registry scope target = .ok bound) :
    ∀ binding ∈ bound, ∃ property ∈ target.properties, binding.1 = property.key ∧
      binding.2.check registry scope property.key property.type = .ok () := by
  simp only [bindings, bind_eq_ok_iff, pure_eq_ok_iff] at h
  obtain ⟨found, hfound, rfl⟩ := h
  intro binding hbinding
  obtain ⟨_, hmem, rfl⟩ := List.mem_filterMap.mp hbinding
  obtain ⟨property, hproperty, hbound⟩ := exists_of_mem_mapM hfound hmem
  exact ⟨property, (List.mem_filter.mp hproperty).1, binding?_check hbound⟩

theorem objectBindings_check {values : List ObjectBinding}
    (h : definition.objectBindings registry scope target = .ok values) :
    ∀ binding ∈ values, ∃ property ∈ target.properties, binding.property = property.key ∧
      binding.value.check registry scope property.key property.type = .ok () := by
  simp only [objectBindings, bind_eq_ok_iff, pure_eq_ok_iff] at h
  obtain ⟨bound, hbound, rfl⟩ := h
  intro binding hbinding
  obtain ⟨pair, hpair, rfl⟩ := List.mem_map.mp hbinding
  exact bindings_check hbound pair hpair

theorem interfaceBindings_check {values : List InterfaceBinding}
    (h : definition.interfaceBindings registry scope target = .ok values) :
    ∀ binding ∈ values, ∃ property ∈ target.properties, binding.property = ⟨property.key⟩ ∧
      binding.value.check registry scope property.key property.type = .ok () := by
  simp only [interfaceBindings, bind_eq_ok_iff, pure_eq_ok_iff] at h
  obtain ⟨bound, hbound, rfl⟩ := h
  intro binding hbinding
  obtain ⟨pair, hpair, rfl⟩ := List.mem_map.mp hbinding
  obtain ⟨property, hproperty, hkey, hcheck⟩ := bindings_check hbound pair hpair
  exact ⟨property, hproperty, by rw [hkey], hcheck⟩

/-! ### Rules -/

/-- The rules of generated actions, by the kind of action and the kind of target. -/
inductive Emits (definition : CrudDefinition) (registry : Registry) (scope : Scope)
    (target : ActionTarget) : Rule → Prop
  | addObject {values : List ObjectBinding} (hinterface : target.isInterface = false)
      (hkind : definition.kind = .create)
      (hvalues : definition.objectBindings registry scope target = .ok values) :
      Emits definition registry scope target (.addObject target.id values)
  | modifyObject {values : List ObjectBinding} (hinterface : target.isInterface = false)
      (hkind : definition.kind = .modify)
      (htarget : scope.declares TargetRole.objectToModify.parameterId)
      (hvalues : definition.objectBindings registry scope target = .ok values) :
      Emits definition registry scope target
        (.modifyObject TargetRole.objectToModify.parameterId values)
  | addOrModifyObject {values : List ObjectBinding} (hinterface : target.isInterface = false)
      (hkind : definition.kind = .createOrModify)
      (htarget : scope.declares TargetRole.objectToCreateOrModify.parameterId)
      (hvalues : definition.objectBindings registry scope target = .ok values) :
      Emits definition registry scope target
        (.addOrModifyObject TargetRole.objectToCreateOrModify.parameterId values)
  | deleteObject (hkind : definition.kind = .delete)
      (htarget : scope.declares TargetRole.objectToDelete.parameterId) :
      Emits definition registry scope target
        (.deleteObject TargetRole.objectToDelete.parameterId)
  | addInterface {values : List InterfaceBinding} (hinterface : target.isInterface = true)
      (hkind : definition.kind = .create)
      (hobjectType : scope.declares TargetRole.objectType.parameterId)
      (hvalues : definition.interfaceBindings registry scope target = .ok values) :
      Emits definition registry scope target
        (.addInterface target.id TargetRole.objectType.parameterId values)
  | modifyInterface {values : List InterfaceBinding} (hinterface : target.isInterface = true)
      (hkind : definition.kind = .modify)
      (htarget : scope.declares TargetRole.interfaceObjectToModify.parameterId)
      (hvalues : definition.interfaceBindings registry scope target = .ok values) :
      Emits definition registry scope target
        (.modifyInterface target.id TargetRole.interfaceObjectToModify.parameterId none values)
  | addOrModifyInterface {values : List InterfaceBinding} (hinterface : target.isInterface = true)
      (hkind : definition.kind = .createOrModify)
      (htarget : scope.declares TargetRole.interfaceObjectToModify.parameterId)
      (hobjectType : scope.declares TargetRole.objectType.parameterId)
      (hvalues : definition.interfaceBindings registry scope target = .ok values) :
      Emits definition registry scope target
        (.modifyInterface target.id TargetRole.interfaceObjectToModify.parameterId
          (some TargetRole.objectType.parameterId) values)

/-- Generated actions emit the listed rules and no others. -/
theorem emits_of_rule (h : definition.rule registry scope target = .ok rule) :
    definition.Emits registry scope target rule := by
  cases hinterface : target.isInterface <;> cases hkind : definition.kind <;>
    simp only [CrudDefinition.rule, hinterface, hkind, bind_eq_ok_iff, pure_eq_ok_iff,
      structuralId_eq_ok_iff] at h
  case false.create =>
    obtain ⟨values, hvalues, rfl⟩ := h
    exact .addObject hinterface hkind hvalues
  case false.modify =>
    obtain ⟨_, ⟨htarget, rfl⟩, values, hvalues, rfl⟩ := h
    exact .modifyObject hinterface hkind htarget hvalues
  case false.createOrModify =>
    obtain ⟨_, ⟨htarget, rfl⟩, values, hvalues, rfl⟩ := h
    exact .addOrModifyObject hinterface hkind htarget hvalues
  case true.create =>
    obtain ⟨_, ⟨hobjectType, rfl⟩, values, hvalues, rfl⟩ := h
    exact .addInterface hinterface hkind hobjectType hvalues
  case true.modify =>
    obtain ⟨_, ⟨htarget, rfl⟩, values, hvalues, rfl⟩ := h
    exact .modifyInterface hinterface hkind htarget hvalues
  case true.createOrModify =>
    obtain ⟨_, ⟨hobjectType, rfl⟩, _, ⟨htarget, rfl⟩, values, hvalues, rfl⟩ := h
    exact .addOrModifyInterface hinterface hkind htarget hobjectType hvalues
  all_goals
    obtain ⟨_, ⟨htarget, rfl⟩, rfl⟩ := h
    exact .deleteObject hkind htarget

theorem Emits.declares_targets (h : definition.Emits registry scope target rule) :
    ∀ id ∈ rule.targets, scope.declares id := by
  intro id hid
  cases h with
  | addObject => cases hid
  | modifyObject _ _ htarget | addOrModifyObject _ _ htarget | deleteObject _ htarget
  | addInterface _ _ htarget | modifyInterface _ _ htarget =>
    rw [List.mem_singleton.mp hid]
    exact htarget
  | addOrModifyInterface _ _ htarget hobjectType =>
    rcases List.mem_cons.mp hid with rfl | hchosen
    · exact htarget
    · rw [List.mem_singleton.mp hchosen]
      exact hobjectType

theorem Emits.check_values (h : definition.Emits registry scope target rule) :
    ∀ value ∈ rule.values, ∃ property type, value.check registry scope property type = .ok () := by
  intro value hvalue
  cases h with
  | deleteObject => cases hvalue
  | addObject _ _ hvalues | modifyObject _ _ _ hvalues | addOrModifyObject _ _ _ hvalues =>
    obtain ⟨binding, hbinding, rfl⟩ := List.mem_map.mp hvalue
    obtain ⟨property, -, -, hcheck⟩ := objectBindings_check hvalues binding hbinding
    exact ⟨_, _, hcheck⟩
  | addInterface _ _ _ hvalues | modifyInterface _ _ _ hvalues
  | addOrModifyInterface _ _ _ _ hvalues =>
    obtain ⟨binding, hbinding, rfl⟩ := List.mem_map.mp hvalue
    obtain ⟨property, -, -, hcheck⟩ := interfaceBindings_check hvalues binding hbinding
    exact ⟨_, _, hcheck⟩

/-- An emitted rule is grounded, though no check has seen it as a whole. -/
theorem Emits.grounded (h : definition.Emits registry scope target rule) :
    rule.Grounded registry scope :=
  ⟨h.declares_targets, h.check_values⟩

/-! ### Checking a generated rule as a whole -/

/-- The bindings that an emitted rule makes on an object pass the check of all bindings together. -/
theorem checkObjectBindings_of_objectBindings {values : List ObjectBinding}
    (hregistered : target.Registered registry) (hinterface : target.isInterface = false)
    (h : definition.objectBindings registry scope target = .ok values) :
    Rule.checkObjectBindings registry scope target.id values = .ok () := by
  obtain ⟨object, hobject, hdeclared⟩ := hregistered.object hinterface
  refine Rule.checkObjectBindings_eq_ok_iff.mpr ⟨object, hobject, fun binding hbinding ↦ ?_⟩
  obtain ⟨property, hproperty, hkey, hcheck⟩ := objectBindings_check h binding hbinding
  obtain ⟨declared, hfound, htype⟩ := hdeclared property hproperty
  rw [hkey]
  exact ⟨declared, hfound, htype ▸ hcheck⟩

/-- So do those that it makes on an interface. -/
theorem checkInterfaceBindings_of_interfaceBindings {values : List InterfaceBinding}
    (hregistered : target.Registered registry) (hinterface : target.isInterface = true)
    (h : definition.interfaceBindings registry scope target = .ok values) :
    Rule.checkInterfaceBindings registry scope target.id values = .ok () := by
  obtain ⟨effective, heffective, hdeclared⟩ := hregistered.interface hinterface
  refine Rule.checkInterfaceBindings_eq_ok_iff.mpr
    ⟨effective, heffective, fun binding hbinding ↦ ?_⟩
  obtain ⟨property, hproperty, hkey, hcheck⟩ := interfaceBindings_check h binding hbinding
  obtain ⟨found, hfound, htype⟩ := hdeclared property hproperty
  rw [hkey]
  exact ⟨found, hfound, htype ▸ hcheck⟩

/-- The rule of a generated action fits, if the structural parameters are in scope under the types
that they were given. -/
theorem Emits.fits (hregistered : target.Registered registry)
    (hstructural : ∀ sketch ∈ structuralParameters definition.kind target,
      scope.type? sketch.id = some sketch.type)
    (h : definition.Emits registry scope target rule) : rule.Fits registry scope := by
  cases h with
  | addObject hinterface _ hvalues =>
    exact .addObject (checkObjectBindings_of_objectBindings hregistered hinterface hvalues)
  | modifyObject hinterface hkind _ hvalues =>
    have hmem : TargetRole.objectToModify.sketch (.objectReference target.id) true ∈
        structuralParameters definition.kind target := by
      simp [structuralParameters, hinterface, hkind]
    exact .modifyObject (hstructural _ hmem)
      (checkObjectBindings_of_objectBindings hregistered hinterface hvalues)
  | addOrModifyObject hinterface hkind _ hvalues =>
    have hmem : TargetRole.objectToCreateOrModify.sketch (.objectReference target.id) false ∈
        structuralParameters definition.kind target := by
      simp [structuralParameters, hinterface, hkind]
    exact .addOrModifyObject (hstructural _ hmem)
      (checkObjectBindings_of_objectBindings hregistered hinterface hvalues)
  | deleteObject hkind _ =>
    -- The object to delete may be chosen through an interface, whose reference fits as well.
    cases hinterface : target.isInterface with
    | false =>
      have hmem : TargetRole.objectToDelete.sketch (.objectReference target.id) true ∈
          structuralParameters definition.kind target := by
        simp [structuralParameters, hinterface, hkind]
      exact .deleteObject (.inl (hstructural _ hmem))
    | true =>
      have hmem : TargetRole.objectToDelete.sketch (.interfaceReference target.id) true ∈
          structuralParameters definition.kind target := by
        simp [structuralParameters, hinterface, hkind]
      exact .deleteObject (.inr (hstructural _ hmem))
  | addInterface hinterface _ hobjectType hvalues =>
    exact .addInterface hobjectType
      (checkInterfaceBindings_of_interfaceBindings hregistered hinterface hvalues)
  | modifyInterface hinterface _ htarget hvalues =>
    exact .modifyInterface htarget (by simp)
      (checkInterfaceBindings_of_interfaceBindings hregistered hinterface hvalues)
  | addOrModifyInterface hinterface _ htarget hobjectType hvalues =>
    refine .modifyInterface htarget ?_
      (checkInterfaceBindings_of_interfaceBindings hregistered hinterface hvalues)
    rintro _ ⟨⟩
    exact hobjectType

end Ontology.CrudDefinition
