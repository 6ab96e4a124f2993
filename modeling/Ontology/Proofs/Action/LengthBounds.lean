import Ontology.Proofs.Action.Requiredness

/-!
Bounds on the number of values. They pass their check exactly when some number lies within them
(`Requirement.check_eq_ok_iff`), and every requirement of a compiled parameter can be met, by
default and while a condition holds: those that follow from a type can, those that an author
configures are checked together with the minimum that requiredness implies, and so are those of
effects. No compiled action asks for a list that does not exist (`compile_lengths`).

Whether a value must be given is itself written as a minimum where the parameter is a list. The
minimum is one unless the author gives another, and then that one stands. So a list that is required
and has a minimum of none may be empty, which is the only way in which a required parameter does not
come out as one (`compile_required`).
-/

set_option autoImplicit false
set_option relaxedAutoImplicit false

namespace Ontology

open Outcome

variable {id : String} {type : ParameterType}

/-! ### Satisfiable requirements -/

namespace Requirement

/-- A number of values is within the bounds that a requirement sets on it. -/
def AdmitsLength (length : Nat) : Requirement → Prop
  | .flag _ => True
  | .listLength min max => (∀ least ∈ min, least ≤ length) ∧ ∀ greatest ∈ max, length ≤ greatest

/-- Some number of values is within the bounds. -/
def Satisfiable (requirement : Requirement) : Prop :=
  ∃ length, requirement.AdmitsLength length

theorem satisfiable_flag (required : Bool) : (flag required).Satisfiable :=
  ⟨0, trivial⟩

/-- Bounds are satisfiable when they are in order, or when one of them is missing. -/
theorem satisfiable_listLength_iff {min max : Option Nat} :
    (listLength min max).Satisfiable ↔ ∀ least ∈ min, ∀ greatest ∈ max, least ≤ greatest := by
  constructor
  · rintro ⟨length, hmin, hmax⟩ least hleast greatest hgreatest
    exact Nat.le_trans (hmin least hleast) (hmax greatest hgreatest)
  · intro hordered
    -- The minimum itself will do, or none where there is no minimum.
    cases min with
    | none => exact ⟨0, nofun, fun _ _ ↦ Nat.zero_le _⟩
    | some least =>
      refine ⟨least, fun _ hleast ↦ ?_, hordered least rfl⟩
      exact Nat.le_of_eq (Option.some.inj hleast).symm

/-- What passes is satisfiable, and whatever is satisfiable passes. -/
theorem check_eq_ok_iff {requirement : Requirement} :
    requirement.check id = .ok () ↔ requirement.Satisfiable := by
  cases requirement with
  | flag required => exact iff_of_true rfl (satisfiable_flag required)
  | listLength min max =>
    rw [satisfiable_listLength_iff]
    cases min with
    | none => simp [check]
    | some least =>
      cases max with
      | none => simp [check]
      | some greatest =>
        rw [check]
        split_ifs with hless
        · simp [hless]
        · simpa using hless

end Requirement

/-- What follows from a type alone can be met. -/
theorem ParameterType.satisfiable_requirement {required : Bool} :
    (type.requirement required none none).Satisfiable := by
  unfold requirement
  split_ifs with hlist
  · exact Requirement.satisfiable_listLength_iff.mpr nofun
  · exact Requirement.satisfiable_listLength_iff.mpr nofun
  · exact Requirement.satisfiable_flag required

/-- The requirement that an effect comes down to can be met. -/
theorem Effect.satisfiable_of_normalize {effect normal : Effect}
    (h : effect.normalize id type = .ok normal) :
    ∀ requirement ∈ normal.requirement?, requirement.Satisfiable := by
  cases effect with
  | visibility =>
    cases h
    rintro _ ⟨⟩
  | prefilled | allowedValues =>
    simp only [normalize, bind_eq_ok_iff, pure_eq_ok_iff] at h
    obtain ⟨_, -, rfl⟩ := h
    rintro _ ⟨⟩
  | requirement demanded =>
    rw [eq_settled_of_normalize h]
    rintro _ ⟨⟩
    cases demanded with
    | flag required => exact ParameterType.satisfiable_requirement
    | listLength min max =>
      simp only [normalize, bind_eq_ok_iff, pure_eq_ok_iff] at h
      obtain ⟨_, hcheck, -⟩ := h
      exact Requirement.check_eq_ok_iff.mp hcheck

namespace ParameterDraft

variable {draft : ParameterDraft} {scope : Scope} {before after : Requirement}

/-- A requirement that the author leaves alone stays, and any other one is worked out from the
requiredness and the bounds and has to be satisfiable. -/
theorem configuredRequirement_eq_ok_iff :
    draft.configuredRequirement id type before = .ok after ↔
      if draft.required = none ∧ draft.listMin = none ∧ draft.listMax = none then after = before
      else after = type.requirement (draft.required.getD before.isRequired) draft.listMin
        draft.listMax ∧ after.Satisfiable := by
  unfold configuredRequirement
  split
  · next hrequired hmin hmax => simp [hrequired, hmin, hmax, eq_comm]
  · next hnot =>
    rw [if_neg fun hnone ↦ hnot hnone.1 hnone.2.1 hnone.2.2]
    simp only [bind_eq_ok_iff, pure_eq_ok_iff, exists_unit_eq_ok_and_iff,
      Requirement.check_eq_ok_iff]
    constructor
    · rintro ⟨hsatisfiable, rfl⟩
      exact ⟨rfl, hsatisfiable⟩
    · rintro ⟨rfl, hsatisfiable⟩
      exact ⟨hsatisfiable, rfl⟩

theorem satisfiable_of_configuredRequirement (hbefore : before.Satisfiable)
    (h : draft.configuredRequirement id type before = .ok after) : after.Satisfiable := by
  rw [configuredRequirement_eq_ok_iff] at h
  split_ifs at h
  · rw [h]
    exact hbefore
  · exact h.2

/-- All requirements of a parameter can be met, by default and while a condition holds. -/
theorem satisfiable_of_configure {required : Bool} {validation : ParameterValidation}
    (h : draft.configure scope id type (type.defaultBlock required) = .ok validation) :
    ∀ requirement ∈ validation.requirements, requirement.Satisfiable := by
  have hblock := configureBlock_eq_ok_iff.mp (configure_eq_ok_iff.mp h).1
  intro requirement hrequirement
  rcases List.mem_cons.mp hrequirement with rfl | hconditional
  · exact satisfiable_of_configuredRequirement ParameterType.satisfiable_requirement
      hblock.2.2.2.1
  · obtain ⟨effect, heffect, hsets⟩ := List.mem_filterMap.mp hconditional
    obtain ⟨_, -, hnormalize⟩ := exists_normalize_of_configure h heffect
    exact Effect.satisfiable_of_normalize hnormalize requirement hsets

end ParameterDraft

/-- A type writes that a value must be given, unless it is a list with a minimum of none. -/
theorem ParameterType.isRequired_requirement_iff {min max : Option Nat} :
    (type.requirement true min max).isRequired ↔ ¬ (type.isList ∧ min = some 0) := by
  by_cases hlist : type.isList
  · rw [requirement, if_pos hlist]
    cases min with
    | none => simp [Requirement.isRequired]
    | some least => simp [Requirement.isRequired, hlist, Nat.pos_iff_ne_zero]
  · rw [requirement, if_neg hlist]
    simp [Requirement.isRequired, hlist]

/-! ### Compiled actions -/

namespace ActionDefinition

variable {registry : Registry} {definition : ActionDefinition} {compiled : CompiledAction}

/-- Whether a value is required, where its author says so, is written with the bounds next to it. -/
theorem requirement_of_compile (h : definition.compile registry = .ok compiled)
    {parameter : Parameter} (hparameter : parameter ∈ compiled.actionType.parameters)
    {required : Bool} (hrequired : (definition.draft parameter.id).required = some required) :
    parameter.validation.default.requirement =
      parameter.type.requirement required (definition.draft parameter.id).listMin
        (definition.draft parameter.id).listMax := by
  obtain ⟨scope, _, hconfigure⟩ := exists_configure_of_compile h hparameter
  have hblock := ParameterDraft.configureBlock_eq_ok_iff.mp
    (ParameterDraft.configure_eq_ok_iff.mp hconfigure).1
  have hconfigured := hblock.2.2.2.1
  rw [ParameterDraft.configuredRequirement_eq_ok_iff, if_neg (by simp [hrequired]), hrequired,
    Option.getD_some] at hconfigured
  exact hconfigured.1

/-- Where a compiled parameter has both bounds on a length, they are in order. That goes for the
minimum of one that a required list has without any minimum of its author. -/
theorem compile_lengths (h : definition.compile registry = .ok compiled) :
    ∀ parameter ∈ compiled.actionType.parameters,
      (∀ least greatest, .listLength (some least) (some greatest) ∈
        parameter.validation.requirements → least ≤ greatest) ∧
      (parameter.type.isList → (definition.draft parameter.id).required = some true →
        (definition.draft parameter.id).listMin = none →
        ∀ greatest ∈ (definition.draft parameter.id).listMax,
          parameter.validation.default.requirement = .listLength (some 1) (some greatest) ∧
            1 ≤ greatest) := by
  intro parameter hparameter
  obtain ⟨scope, required, hconfigure⟩ := exists_configure_of_compile h hparameter
  have hordered : ∀ least greatest, .listLength (some least) (some greatest) ∈
      parameter.validation.requirements → least ≤ greatest := by
    intro least greatest hmem
    have hsatisfiable := ParameterDraft.satisfiable_of_configure hconfigure _ hmem
    exact Requirement.satisfiable_listLength_iff.mp hsatisfiable least rfl greatest rfl
  refine ⟨hordered, fun hlist hrequired hmin greatest hmax ↦ ?_⟩
  have hdefault : parameter.validation.default.requirement =
      .listLength (some 1) (some greatest) := by
    rw [requirement_of_compile h hparameter hrequired, hmin, hmax, ParameterType.requirement,
      if_pos hlist]
    rfl
  exact ⟨hdefault, hordered 1 greatest (hdefault ▸ List.mem_cons_self)⟩

end ActionDefinition

/-- An action that creates a ticket with tags that have to be given, within bounds on their number.
While the ticket is urgent, there are two tags at least. -/
def Fixture.tagTicket (least greatest : Option Nat) : CrudDefinition where
  id := ⟨"com.example.tag-ticket"⟩
  kind := .create
  target := .object ⟨"com.example.ticket"⟩
  configuration :=
    [("tags",
      { required := some true
        listMin := least
        listMax := greatest
        overrides :=
          [{ condition := .parameter "urgent" .equals (.literal (.boolean true))
             effects := [.requirement (.listLength (some 2) greatest)] }] })]

namespace ActionDefinition

variable {registry : Registry} {definition : ActionDefinition} {compiled : CompiledAction}

/-- Up to three tags can be given, two or three when a ticket is urgent, and some have to be unless
their minimum is none. -/
theorem compile_tagTicket :
    ∀ least ∈ [none, some 2, some 0],
      ((generated (Fixture.tagTicket least (some 3))).compile
        (Fixture.registry Fixture.ticket)).toOption.map (·.actionType.parameters.any
          fun parameter ↦ parameter.id = "tags" ∧ parameter.type.isList ∧
            .listLength (some 2) (some 3) ∈ parameter.validation.requirements ∧
            (parameter.validation.default.requirement.isRequired ↔ least ≠ some 0)) =
        some true := by
  decide +kernel

/-- A ticket has one to three tags, and two or three when it is urgent. -/
theorem compile_lengths_tagTicket :
    ∃ compiled, (generated (Fixture.tagTicket none (some 3))).compile
        (Fixture.registry Fixture.ticket) = .ok compiled ∧
      ∃ parameter ∈ compiled.actionType.parameters, parameter.id = "tags" ∧
        (.listLength (some 2) (some 3) ∈ parameter.validation.requirements ∧ 2 ≤ 3) ∧
        parameter.validation.default.requirement = .listLength (some 1) (some 3) ∧ 1 ≤ 3 := by
  obtain ⟨compiled, hcompile, hany⟩ :=
    exists_of_toOption_map (compile_tagTicket none List.mem_cons_self)
  obtain ⟨parameter, hparameter, hview⟩ := List.any_eq_true.mp hany
  obtain ⟨hid, hlist, hmem, -⟩ := of_decide_eq_true hview
  obtain ⟨hordered, himplied⟩ := compile_lengths hcompile parameter hparameter
  rw [hid] at himplied
  exact ⟨compiled, hcompile, parameter, hparameter, hid, ⟨hmem, hordered 2 3 hmem⟩,
    himplied hlist rfl rfl 3 rfl⟩

/-- A parameter that is configured as required is required, unless it is a list with a minimum of
none. -/
theorem compile_required (h : definition.compile registry = .ok compiled) :
    ∀ entry ∈ definition.drafts, entry.2.required = some true →
      (∃ parameter ∈ compiled.actionType.parameters, parameter.id = entry.1) ∧
      ∀ parameter ∈ compiled.actionType.parameters, parameter.id = entry.1 →
        (parameter.validation.default.requirement.isRequired ↔
          ¬ (parameter.type.isList ∧ entry.2.listMin = some 0)) := by
  intro entry hentry hrequired
  obtain ⟨hdraft, hexists⟩ := draft_of_mem_drafts h hentry
  refine ⟨hexists, fun parameter hparameter hid ↦ ?_⟩
  rw [← hid] at hdraft
  rw [requirement_of_compile h hparameter (hdraft ▸ hrequired), hdraft]
  exact ParameterType.isRequired_requirement_iff

/-- Tags have to be given where their minimum is two. -/
theorem compile_required_tagTicket :
    ∃ compiled, (generated (Fixture.tagTicket (some 2) (some 3))).compile
        (Fixture.registry Fixture.ticket) = .ok compiled ∧
      (∃ parameter ∈ compiled.actionType.parameters, parameter.id = "tags") ∧
      ∀ parameter ∈ compiled.actionType.parameters, parameter.id = "tags" →
        parameter.validation.default.requirement.isRequired := by
  obtain ⟨compiled, hcompile, -⟩ :=
    exists_of_toOption_map (compile_tagTicket (some 2) (by decide))
  obtain ⟨hexists, hrequired⟩ := compile_required hcompile _ List.mem_cons_self rfl
  refine ⟨compiled, hcompile, hexists, fun parameter hparameter hid ↦ ?_⟩
  exact (hrequired parameter hparameter hid).mpr (by simp)

/-- Tags that are required, but at least none in number, need not be given. -/
theorem not_forall_required :
    ¬ ∀ (registry : Registry) (definition : ActionDefinition) (compiled : CompiledAction),
      definition.compile registry = .ok compiled → ∀ entry ∈ definition.drafts,
        entry.2.required = some true → ∀ parameter ∈ compiled.actionType.parameters,
          parameter.id = entry.1 → parameter.validation.default.requirement.isRequired := by
  intro hall
  obtain ⟨compiled, hcompile, hany⟩ :=
    exists_of_toOption_map (compile_tagTicket (some 0) (by decide))
  obtain ⟨parameter, hparameter, hview⟩ := List.any_eq_true.mp hany
  obtain ⟨hid, -, -, hrequired⟩ := of_decide_eq_true hview
  have hwanted := hall _ _ _ hcompile _ List.mem_cons_self rfl parameter hparameter hid
  exact hrequired.mp hwanted rfl

end ActionDefinition

end Ontology
