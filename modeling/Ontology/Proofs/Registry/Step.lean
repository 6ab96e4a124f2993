import Ontology.Proofs.Registry.Declarations

/-!
What one definition does to a registry. `Definition.Step` lists, for each kind of definition, what
has been checked when it is accepted and the registry that follows; `apply_eq_ok_iff` says that
definitions are accepted in these ways and no others.
-/

set_option autoImplicit false
set_option relaxedAutoImplicit false

namespace Ontology

open Outcome

/-- A definition that is accepted in a registry, and the registry that follows. -/
inductive Definition.Step (policy : NamingPolicy) (registry : Registry) :
    Definition → Registry → Prop
  | sharedProperty {draft : SharedPropertyDraft}
      (hnames : policy.checkIds [(draft.build policy).id] = .ok ())
      (hvalueType : SharedPropertyDraft.checkValueType registry (draft.build policy) = .ok ()) :
      Step policy registry (.sharedProperty draft)
        (registry.register (.sharedPropertyType (draft.build policy)))
  | valueType {draft : ValueTypeDraft} (hname : (policy.id draft.name).check = .ok ()) :
      Step policy registry (.valueType draft)
        (registry.register (.valueType (draft.build policy)))
  | interfaceType {draft : InterfaceDraft} {effective : List EffectiveProperty}
      (hnames : policy.checkIds
        ((draft.build policy).id :: (draft.build policy).properties.map (·.id)) = .ok ())
      (hdistinct : firstRepeated? [] ((draft.build policy).properties.map (·.id)) = none)
      (hresolves : (draft.extendRegistry policy registry).interfaceProperties
        (draft.build policy).id = .ok effective) :
      Step policy registry (.interfaceType draft) (draft.extendRegistry policy registry)
  | objectType {draft : ObjectDraft} {object : ObjectType}
      (hbuild : draft.build policy registry = .ok object) :
      Step policy registry (.objectType draft) (registry.register (.objectType object))
  | generatedAction {draft : CrudDraft} {compiled : CompiledAction}
      (hname : policy.checkIds [draft.actionId policy] = .ok ())
      (hparameters : policy.checkApiNames (draft.configuration.map (·.1)) = .ok ())
      (hcompile : (draft.qualify policy).compile registry = .ok compiled) :
      Step policy registry (.generatedAction draft) (compiled.register registry)
  | manualAction {draft : ManualDraft} {compiled : CompiledAction}
      (hname : policy.checkIds [policy.id draft.name] = .ok ())
      (hparameters : policy.checkApiNames (draft.parameters.map (·.id)) = .ok ())
      (hcompile : (draft.qualify policy).compile registry = .ok compiled) :
      Step policy registry (.manualAction draft) (compiled.register registry)

namespace Definition

variable {policy : NamingPolicy} {registry next : Registry} {definition : Definition}

/-- Definitions are accepted in the listed ways and no others. -/
theorem apply_eq_ok_iff :
    definition.apply policy registry = .ok next ↔ definition.Step policy registry next := by
  rw [apply_eq]
  constructor
  · intro h
    cases definition with
    | sharedProperty draft =>
      obtain ⟨hnames, hvalueType, rfl⟩ :=
        SharedPropertyDraft.define_eq_ok_iff.mp (mapError_eq_ok_iff.mp h)
      exact .sharedProperty hnames hvalueType
    | valueType draft =>
      obtain ⟨hname, rfl⟩ := ValueTypeDraft.define_eq_ok_iff.mp (mapError_eq_ok_iff.mp h)
      exact .valueType hname
    | interfaceType draft =>
      obtain ⟨hnames, hdistinct, ⟨effective, hresolves⟩, rfl⟩ :=
        InterfaceDraft.define_eq_ok_iff.mp (mapError_eq_ok_iff.mp h)
      exact .interfaceType hnames hdistinct hresolves
    | objectType draft =>
      obtain ⟨object, hbuild, rfl⟩ := ObjectDraft.define_eq_ok_iff.mp (mapError_eq_ok_iff.mp h)
      exact .objectType hbuild
    | generatedAction draft =>
      simp only [mapError_eq_ok_iff, bind_eq_ok_iff, pure_eq_ok_iff] at h
      obtain ⟨_, hname, _, hparameters, compiled, hcompile, rfl⟩ := h
      exact .generatedAction hname hparameters hcompile
    | manualAction draft =>
      simp only [mapError_eq_ok_iff, bind_eq_ok_iff, pure_eq_ok_iff] at h
      obtain ⟨_, hname, _, hparameters, compiled, hcompile, rfl⟩ := h
      exact .manualAction hname hparameters hcompile
  · intro h
    cases h with
    | sharedProperty hnames hvalueType =>
      exact mapError_eq_ok_iff.mpr
        (SharedPropertyDraft.define_eq_ok_iff.mpr ⟨hnames, hvalueType, rfl⟩)
    | valueType hname =>
      exact mapError_eq_ok_iff.mpr (ValueTypeDraft.define_eq_ok_iff.mpr ⟨hname, rfl⟩)
    | interfaceType hnames hdistinct hresolves =>
      exact mapError_eq_ok_iff.mpr
        (InterfaceDraft.define_eq_ok_iff.mpr ⟨hnames, hdistinct, ⟨_, hresolves⟩, rfl⟩)
    | objectType hbuild =>
      exact mapError_eq_ok_iff.mpr (ObjectDraft.define_eq_ok_iff.mpr ⟨_, hbuild, rfl⟩)
    | generatedAction hname hparameters hcompile | manualAction hname hparameters hcompile =>
      simp only [mapError_eq_ok_iff, bind_eq_ok_iff, pure_eq_ok_iff]
      exact ⟨_, hname, _, hparameters, _, hcompile, rfl⟩

end Definition

/-- A session accepts a definition when its registry does, and nothing else in it changes. -/
theorem Session.define_eq_ok_iff {session next : Session} {definition : Definition} :
    session.define definition = .ok next ↔
      ∃ registry, definition.apply session.policy session.registry = .ok registry ∧
        { session with registry } = next := by
  rw [define_eq, map_eq_ok_iff]

/-- What definitions under a policy keep holds after definitions in order, also when one of them is
refused and ends the run. -/
theorem Session.run_keeps {P : Registry → Prop} {session : Session} (h : P session.registry)
    (hdefine : ∀ (registry next : Registry) (definition : Definition),
      definition.apply session.policy registry = .ok next → P registry → P next)
    (definitions : List Definition) : P (session.run definitions).1.registry := by
  induction definitions generalizing session with
  | nil => exact h
  | cons definition rest ih =>
    rw [run, declareAll, Call.outcome_bind]
    cases haccepted : session.define definition with
    | error error =>
      have hleft : (declare definition).outcome session = (session, .error error) :=
        attempt_of_error haccepted
      rw [hleft]
      exact h
    | ok next =>
      obtain ⟨id, hnext⟩ := Call.after_eq_ok_iff.mp haccepted
      obtain ⟨registry, happly, rfl⟩ := define_eq_ok_iff.mp haccepted
      rw [hnext]
      exact ih (hdefine _ registry definition happly h) hdefine

/-- A session starts without entities, under the policy of its options. -/
theorem Session.of_start {options : SessionOptions} {start : Session}
    (h : Session.start options = .ok start) :
    start.registry = .empty ∧ start.policy.strict = options.strict := by
  rw [Session.start, bind_eq_ok_iff] at h
  obtain ⟨space, -, h⟩ := h
  cases h
  exact ⟨rfl, rfl⟩

end Ontology
