import Ontology.Proofs.Action.Elaboration

/-!
Settings that are left open. `ParameterDraft.filled` writes out what a sketch says where its author
says nothing. Configuring a parameter from the filled draft gives the settings that it has anyway
(`configure_filled`): a requirement that is read off the base and written out again is the same
requirement, whether the type writes it as a flag or as bounds on a length.
-/

set_option autoImplicit false
set_option relaxedAutoImplicit false

namespace Ontology

/-! ### Requirements -/

namespace ParameterType

variable {type : ParameterType} {required : Bool}

/-- Requiredness can be read back from a requirement without bounds. -/
theorem isRequired_requirement : (type.requirement required none none).isRequired = required := by
  unfold requirement
  split_ifs with hlist hrequired
  · simp [Requirement.isRequired, hrequired]
  · simp [Requirement.isRequired, hrequired]
  · rfl

/-- Such a requirement is satisfiable. -/
theorem check_requirement {id : String} :
    (type.requirement required none none).check id = .ok () := by
  unfold requirement
  split_ifs <;> rfl

end ParameterType

namespace ParameterDraft

variable {draft : ParameterDraft} {scope : Scope} {id : String} {type : ParameterType}

/-- A draft that settles nothing leaves the base as it is. -/
theorem configure_empty {base : ValidationBlock} :
    ({} : ParameterDraft).configure scope id type base = .ok ⟨base, []⟩ :=
  rfl

/-! ### Filling in -/

/-- The draft with the name, the description and the requiredness of a sketch where it has none. -/
def filled (draft : ParameterDraft) (sketch : ParameterSketch) : ParameterDraft :=
  { draft with
    displayName := some (draft.displayName.getD sketch.displayName)
    description := draft.description.or sketch.description
    required := some (draft.required.getD sketch.required) }

variable {sketch : ParameterSketch}

/-- Writing out whether a value is required changes no requirement. -/
theorem configuredRequirement_filled :
    (draft.filled sketch).configuredRequirement id type
        (type.requirement (draft.required.getD sketch.required) none none) =
      draft.configuredRequirement id type (type.requirement sketch.required none none) := by
  cases hrequired : draft.required with
  | some chosen =>
    simp only [configuredRequirement, filled, hrequired, Option.getD_some]
  | none =>
    -- Bounds alone keep the requiredness of the base, which reads back as that of the sketch.
    cases hmin : draft.listMin with
    | some min =>
      simp only [configuredRequirement, filled, hrequired, hmin, Option.getD_none,
        Option.getD_some, ParameterType.isRequired_requirement]
    | none =>
      cases hmax : draft.listMax with
      | some max =>
        simp only [configuredRequirement, filled, hrequired, hmin, hmax, Option.getD_none,
          Option.getD_some, ParameterType.isRequired_requirement]
      | none =>
        simp only [configuredRequirement, filled, hrequired, hmin, hmax, Option.getD_none,
          Option.getD_some, ParameterType.check_requirement]
        rfl

/-- A filled draft over a base that has the written requiredness gives the settings that the draft
gives over the base of the sketch. -/
theorem configure_filled :
    (draft.filled sketch).configure scope id type
        (type.defaultBlock (draft.required.getD sketch.required)) =
      draft.configure scope id type (type.defaultBlock sketch.required) := by
  have hblock : (draft.filled sketch).configureBlock id type
      (type.defaultBlock (draft.required.getD sketch.required)) =
        draft.configureBlock id type (type.defaultBlock sketch.required) := by
    simp only [configureBlock, ParameterType.defaultBlock, configuredRequirement_filled]
    rfl
  rw [configure, configure, hblock]
  rfl

end ParameterDraft

/-- A parameter whose author settles nothing has the settings of an empty draft. -/
theorem ParameterSketch.validation_eq_configure {sketch : ParameterSketch} {scope : Scope}
    {draft : Option ParameterDraft} :
    sketch.validation scope draft =
      (draft.getD {}).configure scope sketch.id sketch.type sketch.base := by
  cases draft with
  | none => exact ParameterDraft.configure_empty.symm
  | some draft => rfl

end Ontology
