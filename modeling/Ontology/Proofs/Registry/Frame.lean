import Ontology.Proofs.Action.Submission
import Ontology.Proofs.Object.Building
import Ontology.Proofs.Registry.Entities
import Ontology.Proofs.Registry.Step
import Ontology.Scenario.Fixture

/-!
What a definition leaves alone. A definition writes the entity that it defines, an interface also
the shared property types that it brings along, and an action also its own restriction.
`Definition.Frame` says that everything else is as before, and `Definition.frame_of_apply` that
every definition that is accepted keeps to this. A definition that is refused changes nothing
(`Session.attempt_cases`).
-/

set_option autoImplicit false
set_option relaxedAutoImplicit false

namespace Ontology

open Call Outcome

variable {policy : NamingPolicy} {registry next : Registry} {definition : Definition}

/-! ### Definitions of actions -/

/-- The action that a definition describes, with all names qualified. -/
def Definition.action? (policy : NamingPolicy) : Definition → Option ActionDefinition
  | .generatedAction draft => some (.generated (draft.qualify policy))
  | .manualAction draft => some (.manual (draft.qualify policy))
  | _ => none

theorem Definition.id_of_action? {action : ActionDefinition}
    (h : definition.action? policy = some action) :
    definition.kind = .actionType ∧ action.id = definition.id policy := by
  cases definition <;> cases h <;> exact ⟨rfl, rfl⟩

theorem Definition.exists_action? (policy : NamingPolicy) (h : definition.kind = .actionType) :
    ∃ action, definition.action? policy = some action := by
  cases definition <;> cases h <;> exact ⟨_, rfl⟩

/-- An action that is defined is compiled and registered. -/
theorem Definition.exists_compiled_of_apply {action : ActionDefinition}
    (haction : definition.action? policy = some action)
    (h : definition.apply policy registry = .ok next) :
    ∃ compiled, action.compile registry = .ok compiled ∧ next = compiled.register registry := by
  cases apply_eq_ok_iff.mp h with
  | generatedAction _ _ hcompile | manualAction _ _ hcompile =>
    cases haction
    exact ⟨_, hcompile, rfl⟩
  | sharedProperty | valueType | interfaceType | objectType => cases haction

/-! ### Frames -/

/-- The shared property types that a definition brings along. -/
def Definition.sharedPropertyIds (policy : NamingPolicy) : Definition → List Identifier
  | .interfaceType draft => (draft.sharedProperties policy).map (·.id)
  | _ => []

/-- A definition puts an entity in its place, and of all other entries changes at most the shared
property types that it brings along. Only an action changes a restriction, and only its own. -/
structure Definition.Frame (policy : NamingPolicy) (definition : Definition)
    (before after : Registry) : Prop where
  defines : ∃ entity, after.defined.find? definition.kind (definition.id policy) = some entity ∧
    entity.kind = definition.kind ∧ entity.id = definition.id policy
  defined : ∀ kind id, ¬ (kind = definition.kind ∧ id = definition.id policy) →
    ¬ (kind = .sharedPropertyType ∧ id ∈ definition.sharedPropertyIds policy) →
      after.defined.find? kind id = before.defined.find? kind id
  imported : after.imported = before.imported
  permissions : ∀ id, ¬ (definition.kind = .actionType ∧ id = definition.id policy) →
    after.permission? id = before.permission? id

namespace Definition

/-- A definition that does nothing but register its entity keeps to its frame. -/
theorem frame_register {entity : Entity} (hkind : entity.kind = definition.kind)
    (hid : entity.id = definition.id policy) :
    definition.Frame policy registry (registry.register entity) where
  defines := by
    refine ⟨entity, ?_, hkind, hid⟩
    rw [Registry.register, EntityStore.find?_insert, if_pos ⟨hkind.symm, hid.symm⟩]
  defined := by
    intro kind id hother _
    rw [Registry.register, EntityStore.find?_insert, hkind, hid, if_neg hother]
  imported := rfl
  permissions := fun _ _ ↦ rfl

/-- The registry with shared property types. -/
def registerShared (types : List SharedPropertyType) (registry : Registry) : Registry :=
  types.foldl (fun registry type ↦ registry.register (.sharedPropertyType type)) registry

/-- What no registration of these shared property types changes is as before. -/
theorem registerShared_keeps {α : Type} {types : List SharedPropertyType} (view : Registry → α)
    (h : ∀ type ∈ types, ∀ registry : Registry,
      view (registry.register (.sharedPropertyType type)) = view registry) (registry : Registry) :
    view (registerShared types registry) = view registry := by
  induction types generalizing registry with
  | nil => rfl
  | cons type rest ih =>
    calc view (registerShared rest (registry.register (.sharedPropertyType type)))
        = view (registry.register (.sharedPropertyType type)) :=
          ih (fun other hother ↦ h other (List.mem_cons_of_mem _ hother)) _
      _ = view registry := h type List.mem_cons_self registry

theorem find?_registerShared {types : List SharedPropertyType} {kind : EntityKind}
    {id : Identifier} (hother : ¬ (kind = .sharedPropertyType ∧ id ∈ types.map (·.id))) :
    (registerShared types registry).defined.find? kind id = registry.defined.find? kind id := by
  refine registerShared_keeps (·.defined.find? kind id) (fun type htype registry ↦ ?_) registry
  have hne : ¬ (kind = .sharedPropertyType ∧ id = type.id) :=
    fun h ↦ hother ⟨h.1, h.2 ▸ List.mem_map_of_mem htype⟩
  rw [Registry.register, EntityStore.find?_insert]
  exact if_neg hne

theorem frame_extendRegistry {draft : InterfaceDraft} :
    (interfaceType draft).Frame policy registry (draft.extendRegistry policy registry) := by
  have hinterface : (interfaceType draft).Frame policy
      (registerShared (draft.sharedProperties policy) registry)
      (draft.extendRegistry policy registry) :=
    frame_register rfl rfl
  have himported := registerShared_keeps (·.imported)
    (fun type (_ : type ∈ draft.sharedProperties policy) _ ↦ rfl) registry
  have hpermissions (id : Identifier) := registerShared_keeps (·.permission? id)
    (fun type (_ : type ∈ draft.sharedProperties policy) _ ↦ rfl) registry
  refine ⟨hinterface.defines, ?_, ?_, ?_⟩
  · intro kind id hself hshared
    rw [hinterface.defined kind id hself hshared, find?_registerShared hshared]
  · exact hinterface.imported.trans himported
  · intro id hself
    exact (hinterface.permissions id hself).trans (hpermissions id)

/-- Every definition that is accepted keeps to its frame. -/
theorem frame_of_apply (h : definition.apply policy registry = .ok next) :
    definition.Frame policy registry next := by
  cases haction : definition.action? policy with
  | some action =>
    obtain ⟨hkind, hid⟩ := id_of_action? haction
    obtain ⟨compiled, hcompile, rfl⟩ := exists_compiled_of_apply haction h
    have hcompiled := (ActionDefinition.compile_submission hcompile).1.trans hid
    have hregister : definition.Frame policy registry
        (registry.register (.actionType compiled.actionType)) :=
      frame_register hkind.symm hcompiled
    refine ⟨?_, ?_, compiled.register_imported, ?_⟩
    · rw [CompiledAction.register_defined]
      exact hregister.defines
    · rw [CompiledAction.register_defined]
      exact hregister.defined
    · intro id hother
      rw [ActionDefinition.permission?_register hcompile, if_neg]
      rintro rfl
      exact hother ⟨hkind, hid⟩
  | none =>
    cases apply_eq_ok_iff.mp h with
    | sharedProperty | valueType => exact frame_register rfl rfl
    | objectType hbuild => exact frame_register rfl (ObjectDraft.build_id hbuild)
    | interfaceType => exact frame_extendRegistry
    | generatedAction | manualAction => cases haction

end Definition

/-- Definitions import nothing. -/
theorem Session.run_imported (session : Session) (definitions : List Definition) :
    (session.run definitions).1.registry.imported = session.registry.imported :=
  run_keeps (P := fun registry ↦ registry.imported = session.registry.imported) rfl
    (fun _ _ _ happly h ↦ (Definition.frame_of_apply happly).imported.trans h) definitions

theorem Fixture.registry_imported (definitions : List Definition) :
    (Fixture.registry definitions).imported = {} :=
  Session.run_imported _ definitions

/-! ### Define calls -/

/-- A definition that is accepted gives the identifier of what it defines. -/
theorem Definition.declare_gives (definition : Definition) :
    (definition.declare policy).Gives (· = definition.id policy) := by
  cases definition with
  | sharedProperty draft =>
    refine Gives.adaptExcept ?_ _
    exact .bind fun _ ↦ .bind fun _ ↦ .bind fun _ ↦ .bind fun _ ↦ gives_pure rfl
  | valueType draft =>
    refine Gives.adaptExcept ?_ _
    exact .bind fun _ ↦ .bind fun _ ↦ gives_pure rfl
  | interfaceType draft =>
    refine Gives.adaptExcept ?_ _
    exact .bind fun _ ↦ .bind fun _ ↦ .bind fun _ ↦ .bind fun _ ↦ .bind fun _ ↦ gives_pure rfl
  | objectType draft =>
    refine Gives.adaptExcept ?_ _
    exact .bind fun _ ↦ .bind fun _ ↦ .bind fun _ ↦ gives_pure rfl
  | generatedAction draft =>
    refine .bind fun _ ↦ .bind fun _ ↦ .bind fun registry ↦ gives_lift_bind fun compiled h ↦ ?_
    have hcompile : ActionDefinition.compile registry (.generated (draft.qualify policy)) =
        .ok compiled := mapError_eq_ok_iff.mp h
    exact compiled.gives_enroll (ActionDefinition.compile_submission hcompile).1
  | manualAction draft =>
    refine .bind fun _ ↦ .bind fun _ ↦ .bind fun registry ↦ gives_lift_bind fun compiled h ↦ ?_
    have hcompile : ActionDefinition.compile registry (.manual (draft.qualify policy)) =
        .ok compiled := mapError_eq_ok_iff.mp h
    exact compiled.gives_enroll (ActionDefinition.compile_submission hcompile).1

/-- A define call either is refused and leaves the session as it was, or it tells the identifier of
the entity, and the session has changed within the frame of the definition. -/
theorem Session.attempt_cases (session : Session) (definition : Definition) :
    (∃ error, session.attempt definition = (session, .error error)) ∨
    ∃ registry, session.attempt definition =
        ({ session with registry }, .ok (definition.id session.policy)) ∧
      definition.Frame session.policy session.registry registry := by
  cases hdefine : session.define definition with
  | error error => exact .inl ⟨error, attempt_of_error hdefine⟩
  | ok next =>
    obtain ⟨registry, happly, rfl⟩ := define_eq_ok_iff.mp hdefine
    obtain ⟨id, hattempt⟩ := attempt_of_ok hdefine
    have hid : id = definition.id session.policy := by
      refine definition.declare_gives session.registry id ?_
      rw [attempt, outcome_declare] at hattempt
      exact congrArg Prod.snd hattempt
    exact .inr ⟨registry, hid ▸ hattempt, Definition.frame_of_apply happly⟩

end Ontology
