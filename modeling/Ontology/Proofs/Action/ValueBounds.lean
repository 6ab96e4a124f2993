import Ontology.Proofs.Action.Drafts

/-!
The bounds on the values of a parameter. Numbers, dates and times may be kept within a range, whose
ends are literals (`AllowedValues.bounds`). The check of allowed values looks at those that are
enumerated and passes every range. A type bounds nothing of itself, so the bounds of a compiled
parameter are those of its author, by default and while a condition holds
(`ParameterDraft.bounds_of_configure`). They are values of the items of the parameter exactly as far
as the author has given such values (`compile_bounds`), and a number may be bounded by a text
(`not_forall_boundsTyped`).
-/

set_option autoImplicit false
set_option relaxedAutoImplicit false

namespace Ontology

open Outcome

/-! ### Bounds -/

/-- The literals that bound values from below and from above. -/
def AllowedValues.bounds : AllowedValues → List Literal
  | .range least greatest | .datetime least greatest => least.toList ++ greatest.toList
  | _ => []

/-- The bounds on the values of a parameter, by default or while a condition holds. -/
def ParameterValidation.bounds (validation : ParameterValidation) : List Literal :=
  validation.allowed.flatMap (·.bounds)

/-- The bounds on the values of every parameter are values of its items. -/
def ActionType.BoundsTyped (action : ActionType) : Prop :=
  ∀ parameter ∈ action.parameters, ∀ bound ∈ parameter.validation.bounds,
    parameter.type.itemType.admits bound

/-- What a type allows of itself is not bounded. -/
@[simp] theorem ParameterType.bounds_allowedValues (type : ParameterType) :
    type.allowedValues.bounds = [] := by
  induction type with
  | list item ih => exact ih
  | _ => rfl

@[simp] theorem Effect.allowed?_settled (effect : Effect) (type : ParameterType) :
    (effect.settled type).allowed? = effect.allowed? := by
  cases effect <;> rfl

namespace ParameterDraft

variable {draft : ParameterDraft} {scope : Scope} {id : String} {type : ParameterType}

/-- The bounds that an author gives, by default or while a condition holds. -/
def bounds (draft : ParameterDraft) : List Literal :=
  (draft.allowedValues.toList ++ draft.effects.filterMap (·.allowed?)).flatMap (·.bounds)

/-- The allowed values are those that the author gives, if any. -/
theorem eq_of_configuredValues {base allowed : AllowedValues}
    (h : draft.configuredValues id type base = .ok allowed) :
    allowed = draft.allowedValues.getD base := by
  unfold configuredValues at h
  split at h
  · next hnone =>
    cases h
    rw [hnone, Option.getD_none]
  · next given hgiven =>
    simp only [bind_eq_ok_iff, pure_eq_ok_iff] at h
    obtain ⟨_, -, rfl⟩ := h
    rw [hgiven, Option.getD_some]

/-- The bounds on a parameter are those of its author. -/
theorem bounds_of_configure {required : Bool} {validation : ParameterValidation}
    (h : draft.configure scope id type (type.defaultBlock required) = .ok validation) :
    validation.bounds = draft.bounds := by
  have hblock := configureBlock_eq_ok_iff.mp (configure_eq_ok_iff.mp h).1
  have hdefault : validation.default.allowedValues.bounds =
      draft.allowedValues.toList.flatMap (·.bounds) := by
    rw [eq_of_configuredValues hblock.2.2.1]
    cases draft.allowedValues with
    | none => exact type.bounds_allowedValues
    | some given => exact (List.flatMap_singleton ..).symm
  have heffects : validation.effects.filterMap (·.allowed?) =
      draft.effects.filterMap (·.allowed?) := by
    simp only [effects_of_configure h, List.filterMap_map, Function.comp_def,
      Effect.allowed?_settled]
  rw [ParameterValidation.bounds, ParameterValidation.allowed, List.flatMap_cons, hdefault,
    heffects, bounds, List.flatMap_append]

end ParameterDraft

/-! ### Compiled actions -/

namespace ActionDefinition

variable {registry : Registry} {definition : ActionDefinition} {compiled : CompiledAction}

/-- Every parameter of a compiled action has the bounds of its draft and no others. So all bounds of
the action are typed exactly when those are that its author gives. -/
theorem compile_bounds (h : definition.compile registry = .ok compiled) :
    (∀ parameter ∈ compiled.actionType.parameters,
      parameter.validation.bounds = (definition.draft parameter.id).bounds) ∧
    (compiled.actionType.BoundsTyped ↔
      ∀ entry ∈ definition.drafts, ∀ parameter ∈ compiled.actionType.parameters,
        parameter.id = entry.1 → ∀ bound ∈ entry.2.bounds,
          parameter.type.itemType.admits bound) := by
  have hbounds : ∀ parameter ∈ compiled.actionType.parameters,
      parameter.validation.bounds = (definition.draft parameter.id).bounds := by
    intro parameter hparameter
    obtain ⟨scope, required, hconfigure⟩ := exists_configure_of_compile h hparameter
    exact ParameterDraft.bounds_of_configure hconfigure
  have hempty : ({} : ParameterDraft).bounds = [] := rfl
  refine ⟨hbounds, ?_⟩
  rw [← forall_draft_iff h (p := fun parameter draft ↦ ∀ bound ∈ draft.bounds,
    parameter.type.itemType.admits bound) (by simp [hempty])]
  exact forall₂_congr fun parameter hparameter ↦ by rw [hbounds parameter hparameter]

end ActionDefinition

/-- An action that creates a ticket with an estimate that is not below some literal. While the
ticket is urgent, its date is not after some literal. -/
def Fixture.scheduleTicket (least latest : Literal) : CrudDefinition where
  id := ⟨"com.example.schedule-ticket"⟩
  kind := .create
  target := .object ⟨"com.example.ticket"⟩
  configuration :=
    [("estimate", { allowedValues := some (.range (some least) none) }),
      ("dueDate",
        { overrides :=
            [{ condition := .parameter "urgent" .equals (.literal (.boolean true))
               effects := [.allowedValues (.datetime none (some latest))] }] })]

namespace ActionDefinition

/-- The parameters of a scheduled ticket are those of its properties. Texts are no bounds for an
estimate or a date. -/
theorem compile_scheduleTicket :
    ((generated (Fixture.scheduleTicket (.integer 0) (.date "2030-12-31"))).compile
      (Fixture.registry Fixture.ticket)).toOption.map (·.actionType.parameters.map fun parameter ↦
        (parameter.id, parameter.type)) =
      some [("ticketId", .string), ("title", .string), ("priority", .integer),
        ("estimate", .double), ("urgent", .boolean), ("dueDate", .date),
        ("tags", .list .string)] ∧
    ((generated (Fixture.scheduleTicket (.string "low") (.string "soon"))).compile
      (Fixture.registry Fixture.ticket)).toOption.map (fun compiled ↦
        compiled.actionType.parameters.all fun parameter ↦
          parameter.validation.bounds.all fun bound ↦ parameter.type.itemType.admits bound) =
      some false := by
  decide +kernel

/-- An estimate starts at a number, and a date ends at a date while the ticket is urgent. -/
theorem compile_bounds_scheduleTicket :
    ∃ compiled,
      (generated (Fixture.scheduleTicket (.integer 0) (.date "2030-12-31"))).compile
          (Fixture.registry Fixture.ticket) = .ok compiled ∧
        (∃ parameter ∈ compiled.actionType.parameters, parameter.id = "dueDate" ∧
          parameter.validation.bounds = [.date "2030-12-31"]) ∧
        compiled.actionType.BoundsTyped := by
  obtain ⟨compiled, hcompile, htypes⟩ := exists_of_toOption_map compile_scheduleTicket.1
  obtain ⟨hbounds, htyped⟩ := compile_bounds hcompile
  refine ⟨compiled, hcompile, ?_, htyped.mpr ?_⟩
  · have hmem : ("dueDate", ParameterType.date) ∈ compiled.actionType.parameters.map
        fun parameter ↦ (parameter.id, parameter.type) := by
      rw [htypes]
      decide
    obtain ⟨parameter, hparameter, hview⟩ := List.mem_map.mp hmem
    have hid : parameter.id = "dueDate" := congrArg Prod.fst hview
    refine ⟨parameter, hparameter, hid, ?_⟩
    rw [hbounds parameter hparameter, hid]
    rfl
  · have hall : ∀ entry ∈
        (generated (Fixture.scheduleTicket (.integer 0) (.date "2030-12-31"))).drafts,
        ∀ declared ∈ compiled.actionType.parameters.map fun parameter ↦
          (parameter.id, parameter.type),
        declared.1 = entry.1 → ∀ bound ∈ entry.2.bounds, declared.2.itemType.admits bound := by
      rw [htypes]
      decide
    intro entry hentry parameter hparameter
    exact hall entry hentry _ (List.mem_map_of_mem hparameter)

/-- The estimate of a ticket starts at a text, and the date of an urgent ticket ends at one. -/
theorem not_forall_boundsTyped :
    ¬ ∀ (registry : Registry) (definition : ActionDefinition) (compiled : CompiledAction),
      definition.compile registry = .ok compiled → compiled.actionType.BoundsTyped := by
  intro hall
  obtain ⟨compiled, hcompile, hfails⟩ := exists_of_toOption_map compile_scheduleTicket.2
  have htyped := hall _ _ _ hcompile
  rw [← Bool.not_eq_true, List.all_eq_true] at hfails
  exact hfails fun parameter hparameter ↦ List.all_eq_true.mpr (htyped parameter hparameter)

end ActionDefinition

end Ontology
