import Ontology.Proofs.Call
import Ontology.Proofs.Outcome
import Ontology.Session.Operation

/-!
The calls that make definitions, step by step. Each makes its checks, on the registry or on a
staged copy of it, and writes to the registry only when nothing can fail any more. So every
definition is atomic (`Definition.declare_atomic`, `Session.declare_atomic`): when it is refused, at
whatever step, the session is left as it was. The equations `define_eq` and `Definition.apply_eq`
list the checks of a definition and the registry that follows.
-/

set_option autoImplicit false
set_option relaxedAutoImplicit false

namespace Ontology

open Call Outcome

variable {policy : NamingPolicy} {registry next : Registry}

/-! ### Shared property types and value types -/

namespace SharedPropertyDraft

theorem define_eq (draft : SharedPropertyDraft) :
    draft.define policy registry = do
      SchemaError.ofNaming (policy.checkIds [(draft.build policy).id])
      checkValueType registry (draft.build policy)
      return registry.register (.sharedPropertyType (draft.build policy)) := by
  simp only [define, declare, after_lift_bind, after_get_bind, after_modify_bind, after_pure]

theorem define_eq_ok_iff {draft : SharedPropertyDraft} :
    draft.define policy registry = .ok next ↔
      policy.checkIds [(draft.build policy).id] = .ok () ∧
        checkValueType registry (draft.build policy) = .ok () ∧
        registry.register (.sharedPropertyType (draft.build policy)) = next := by
  simp only [define_eq, SchemaError.ofNaming, bind_eq_ok_iff, mapError_eq_ok_iff, pure_eq_ok_iff,
    exists_unit_eq_ok_and_iff]

theorem declare_atomic (draft : SharedPropertyDraft) : (draft.declare policy).Atomic := by
  refine (readOnly_lift _).bind_atomic fun _ ↦ ?_
  refine readOnly_get.bind_atomic fun _ ↦ ?_
  refine (readOnly_lift _).bind_atomic fun _ ↦ ?_
  exact ((infallible_modify _).bind fun _ ↦ infallible_pure _).atomic

end SharedPropertyDraft

namespace ValueTypeDraft

theorem define_eq (draft : ValueTypeDraft) :
    draft.define policy registry = do
      SchemaError.ofNaming (draft.build policy).id.check
      return registry.register (.valueType (draft.build policy)) := by
  simp only [define, declare, after_lift_bind, after_modify_bind, after_pure]

theorem define_eq_ok_iff {draft : ValueTypeDraft} :
    draft.define policy registry = .ok next ↔
      (draft.build policy).id.check = .ok () ∧
        registry.register (.valueType (draft.build policy)) = next := by
  simp only [define_eq, SchemaError.ofNaming, bind_eq_ok_iff, mapError_eq_ok_iff, pure_eq_ok_iff,
    exists_unit_eq_ok_and_iff]

theorem declare_atomic (draft : ValueTypeDraft) : (draft.declare policy).Atomic := by
  refine (readOnly_lift _).bind_atomic fun _ ↦ ?_
  exact ((infallible_modify _).bind fun _ ↦ infallible_pure _).atomic

end ValueTypeDraft

/-! ### Interfaces and objects -/

namespace InterfaceDraft

theorem define_eq (draft : InterfaceDraft) :
    draft.define policy registry = do
      SchemaError.ofNaming
        (policy.checkIds ((draft.build policy).id :: (draft.build policy).properties.map (·.id)))
      checkDistinct (draft.build policy)
      let _ ← (draft.extendRegistry policy registry).interfaceProperties (draft.build policy).id
      return draft.extendRegistry policy registry := by
  simp only [define, declare, after_lift_bind, after_get_bind, after_set_bind, after_pure]

theorem checkDistinct_eq_ok_iff {interface : InterfaceType} :
    checkDistinct interface = .ok () ↔
      firstRepeated? [] (interface.properties.map (·.id)) = none := by
  unfold checkDistinct
  split <;> simp_all

theorem define_eq_ok_iff {draft : InterfaceDraft} :
    draft.define policy registry = .ok next ↔
      policy.checkIds ((draft.build policy).id :: (draft.build policy).properties.map (·.id)) =
          .ok () ∧
        firstRepeated? [] ((draft.build policy).properties.map (·.id)) = none ∧
        (∃ effective, (draft.extendRegistry policy registry).interfaceProperties
          (draft.build policy).id = .ok effective) ∧
        draft.extendRegistry policy registry = next := by
  simp only [define_eq, SchemaError.ofNaming, bind_eq_ok_iff, mapError_eq_ok_iff, pure_eq_ok_iff,
    exists_and_right, exists_unit_eq_ok_iff, checkDistinct_eq_ok_iff]

/-- The staged registry takes the place of the old one as the last step. -/
theorem declare_atomic (draft : InterfaceDraft) : (draft.declare policy).Atomic := by
  -- Names, repetitions and the staged registry are all checked before anything is written.
  refine (readOnly_lift _).bind_atomic fun _ ↦ ?_
  refine (readOnly_lift _).bind_atomic fun _ ↦ ?_
  refine readOnly_get.bind_atomic fun _ ↦ ?_
  refine (readOnly_lift _).bind_atomic fun _ ↦ ?_
  exact ((infallible_set _).bind fun _ ↦ infallible_pure _).atomic

end InterfaceDraft

namespace ObjectDraft

theorem define_eq (draft : ObjectDraft) :
    draft.define policy registry = do
      let object ← draft.build policy registry
      return registry.register (.objectType object) := by
  simp only [define, declare, after_lift_bind, after_get_bind, after_modify_bind, after_pure]

/-- An object type that is defined is built and registered. -/
theorem define_eq_ok_iff {draft : ObjectDraft} :
    draft.define policy registry = .ok next ↔
      ∃ object, draft.build policy registry = .ok object ∧
        registry.register (.objectType object) = next := by
  simp only [define_eq, bind_eq_ok_iff, pure_eq_ok_iff]

theorem declare_atomic (draft : ObjectDraft) : (draft.declare policy).Atomic := by
  refine readOnly_get.bind_atomic fun _ ↦ ?_
  refine (readOnly_lift _).bind_atomic fun _ ↦ ?_
  exact ((infallible_modify _).bind fun _ ↦ infallible_pure _).atomic

end ObjectDraft

/-! ### Actions -/

/-- The entry of the action and its restriction are both written. -/
theorem CompiledAction.outcome_enroll {ε : Type} (compiled : CompiledAction) :
    (compiled.enroll : Call ε Registry Identifier).outcome registry =
      (compiled.register registry, .ok compiled.actionType.id) := by
  rcases compiled with ⟨type, none | permission⟩ <;> rfl

theorem CompiledAction.after_enroll {ε : Type} (compiled : CompiledAction) :
    (compiled.enroll : Call ε Registry Identifier).after registry =
      pure (compiled.register registry) := by
  rw [after, outcome_enroll]
  rfl

theorem CompiledAction.gives_enroll {ε : Type} (compiled : CompiledAction)
    {P : Identifier → Prop} (h : P compiled.actionType.id) :
    (compiled.enroll : Call ε Registry Identifier).Gives P := by
  intro registry id hid
  rw [outcome_enroll] at hid
  cases hid
  exact h

theorem CompiledAction.infallible_enroll {ε : Type} (compiled : CompiledAction) :
    (compiled.enroll : Call ε Registry Identifier).Infallible := by
  intro registry
  rw [outcome_enroll]
  exact ⟨_, rfl⟩

/-! ### Definitions of every kind -/

namespace Definition

theorem apply_eq (definition : Definition) :
    definition.apply policy registry = match definition with
      | .sharedProperty draft => (draft.define policy registry).mapError .schema
      | .valueType draft => (draft.define policy registry).mapError .schema
      | .interfaceType draft => (draft.define policy registry).mapError .schema
      | .objectType draft => (draft.define policy registry).mapError .schema
      | .generatedAction draft => do
        let definition := draft.qualify policy
        (policy.checkIds [definition.id]).mapError .naming
        (policy.checkApiNames (definition.configuration.map (·.1))).mapError .naming
        let compiled ← (definition.compile registry).mapError .action
        return compiled.register registry
      | .manualAction draft => do
        let definition := draft.qualify policy
        (policy.checkIds [definition.id]).mapError .naming
        (policy.checkApiNames (definition.parameters.map (·.id))).mapError .naming
        let compiled ← (definition.compile registry).mapError .action
        return compiled.register registry := by
  cases definition with
  | sharedProperty draft | valueType draft | interfaceType draft | objectType draft =>
    exact after_adaptExcept _ _ _
  | generatedAction draft | manualAction draft =>
    simp only [apply, declare, after_lift_bind, after_get_bind, CompiledAction.after_enroll]

/-- A definition that is refused leaves the registry as it was. -/
theorem declare_atomic (definition : Definition) : (definition.declare policy).Atomic := by
  cases definition with
  | sharedProperty draft => exact draft.declare_atomic.adaptExcept _
  | valueType draft => exact draft.declare_atomic.adaptExcept _
  | interfaceType draft => exact draft.declare_atomic.adaptExcept _
  | objectType draft => exact draft.declare_atomic.adaptExcept _
  | generatedAction draft | manualAction draft =>
    -- The last check is the compilation; the two writes that follow cannot fail.
    refine (readOnly_lift _).bind_atomic fun _ ↦ ?_
    refine (readOnly_lift _).bind_atomic fun _ ↦ ?_
    refine readOnly_get.bind_atomic fun _ ↦ ?_
    refine (readOnly_lift _).bind_atomic fun compiled ↦ ?_
    exact compiled.infallible_enroll.atomic

end Definition

/-! ### Sessions -/

namespace Session

variable {session following : Session} {definition : Definition}

/-- A definition is made on the registry, and the rest of the session stays. -/
theorem outcome_declare (session : Session) (definition : Definition) :
    (declare definition).outcome session =
      let (registry, result) := (definition.declare session.policy).outcome session.registry
      ({ session with registry }, result) := by
  simp only [declare, outcome, EStateM.run]
  cases definition.declare session.policy session.registry <;> rfl

theorem define_eq (session : Session) (definition : Definition) :
    session.define definition =
      (fun registry ↦ { session with registry }) <$>
        definition.apply session.policy session.registry := by
  unfold define Definition.apply after
  rw [outcome_declare]
  rcases (definition.declare session.policy).outcome session.registry with
    ⟨registry, error | id⟩ <;> rfl

/-- A definition that is refused leaves the session as it was. -/
theorem declare_atomic (definition : Definition) : (declare definition).Atomic := by
  intro session error herror
  rw [outcome_declare] at herror ⊢
  have hregistry := definition.declare_atomic session.registry error herror
  simp only [hregistry]

theorem attempt_of_error {error : SessionError} (h : session.define definition = .error error) :
    session.attempt definition = (session, .error error) :=
  (declare_atomic definition).outcome_of_error h

theorem attempt_of_ok (h : session.define definition = .ok following) :
    ∃ id, session.attempt definition = (following, .ok id) :=
  after_eq_ok_iff.mp h

end Session

end Ontology
