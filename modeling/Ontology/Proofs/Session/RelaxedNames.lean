import Ontology.Proofs.Registry.Step
import Ontology.Proofs.Session.NameErrors
import Ontology.Scenario.Fixture

/-!
Names in a session that is not strict. Every definition starts with the check of its names
(`Definition.checkNames`), and what this check refuses is all that is ever refused for its name
(`Definition.refusal_iff`), under every policy and in every registry. The policy decides about the
names of shared property types, interfaces, objects and actions; the identifier of a value type is
checked under every policy. So a session that is not strict refuses names as well: those of value
types that break the rule, and no others (`Session.refusal_relaxed`).
-/

set_option autoImplicit false
set_option relaxedAutoImplicit false

namespace Ontology

open Outcome

/-- The refusal of a name that the error of a session stands for. -/
@[simp] def SessionError.nameError? : SessionError → Option NameError
  | .naming error => some error
  | .schema error => error.nameError?
  | .action error => error.nameError?

variable {policy : NamingPolicy} {registry : Registry} {refusal : NameError}

/-! ### Checks at the start -/

/-- Where a check of names comes first, a name is refused by the check or by the rest. -/
theorem refusal_of_check_iff {ε α : Type} (view : ε → Option NameError) (naming : NameError → ε)
    (hview : ∀ error, view (naming error) = some error) {check : Except NameError Unit}
    {rest : Except ε α} :
    Reports view (check.mapError naming >>= fun _ ↦ rest) refusal ↔
      check = .error refusal ∨ check = .ok () ∧ Reports view rest refusal := by
  rw [reports_bind_iff]
  cases check <;> simp [Except.mapError, hview]

theorem SchemaError.refusal_of_check_iff {α : Type} {check : Except NameError Unit}
    {rest : Except SchemaError α} :
    Reports SchemaError.nameError? (ofNaming check >>= fun _ ↦ rest) refusal ↔
      check = .error refusal ∨ check = .ok () ∧ Reports SchemaError.nameError? rest refusal :=
  Ontology.refusal_of_check_iff SchemaError.nameError? .naming fun _ ↦ rfl

theorem SessionError.refusal_of_check_iff {α : Type} {check : Except NameError Unit}
    {rest : Except SessionError α} :
    Reports SessionError.nameError? (check.mapError .naming >>= fun _ ↦ rest) refusal ↔
      check = .error refusal ∨ check = .ok () ∧ Reports SessionError.nameError? rest refusal :=
  Ontology.refusal_of_check_iff SessionError.nameError? .naming fun _ ↦ rfl

/-! ### Definitions of every kind -/

theorem SharedPropertyDraft.refusal_iff (draft : SharedPropertyDraft) :
    Reports SchemaError.nameError? (draft.define policy registry) refusal ↔
      policy.checkIds [policy.id draft.name] = .error refusal := by
  have hvalueType : ¬ Reports SchemaError.nameError?
      (checkValueType registry (draft.build policy)) refusal := by
    unfold checkValueType
    split
    · exact not_reports_ok
    · split <;> simp
  rw [define_eq]
  refine SchemaError.refusal_of_check_iff.trans (or_iff_left (not_and_of_not_right _ ?_))
  exact not_reports_bind hvalueType fun _ ↦ not_reports_pure

theorem InterfaceDraft.refusal_iff (draft : InterfaceDraft) :
    Reports SchemaError.nameError? (draft.define policy registry) refusal ↔
      policy.checkIds (policy.id draft.name :: (draft.build policy).properties.map (·.id)) =
        .error refusal := by
  have hdistinct :
      ¬ Reports SchemaError.nameError? (checkDistinct (draft.build policy)) refusal := by
    unfold checkDistinct
    split <;> simp
  have hresolves : ¬ Reports SchemaError.nameError?
      ((draft.extendRegistry policy registry).interfaceProperties (policy.id draft.name)) refusal :=
    Registry.interfaceProperties_refuses_no_name _
  rw [define_eq]
  refine SchemaError.refusal_of_check_iff.trans (or_iff_left (not_and_of_not_right _ ?_))
  refine not_reports_bind hdistinct fun _ ↦ ?_
  exact not_reports_bind hresolves fun _ ↦ not_reports_pure

theorem ObjectDraft.refusal_iff (draft : ObjectDraft) :
    Reports SchemaError.nameError? (draft.define policy registry) refusal ↔
      policy.checkIds [policy.id draft.name] = .error refusal ∨
        policy.checkIds [policy.id draft.name] = .ok () ∧
          policy.checkApiNames (draft.properties.map (·.apiName)) = .error refusal := by
  have hdefine : Reports SchemaError.nameError? (draft.define policy registry) refusal ↔
      Reports SchemaError.nameError? (draft.build policy registry) refusal := by
    simp [define_eq]
  rw [hdefine]
  refine SchemaError.refusal_of_check_iff.trans (or_congr_right (and_congr_right fun _ ↦ ?_))
  refine SchemaError.refusal_of_check_iff.trans (or_iff_left (not_and_of_not_right _ ?_))
  refine not_reports_bind (ObjectPropertyDraft.buildAll_refuses_no_name _) fun properties ↦ ?_
  split
  · refine not_reports_bind (checkProperty_refuses_no_name _) fun _ ↦ ?_
    refine not_reports_bind (checkProperty_refuses_no_name _) fun _ ↦ ?_
    refine not_reports_bind (not_reports_mapM fun implementation _ ↦ ?_) fun _ ↦ not_reports_pure
    exact Implementation.resolve_refuses_no_name _
  · simp

/-- Of an action the identifier is looked at first and the parameter ids of its author next. -/
theorem CompiledAction.refusal_iff {id : Identifier} {names : List String}
    {compile : Except ActionError CompiledAction}
    (hcompile : ¬ Reports ActionError.nameError? compile refusal) :
    Reports SessionError.nameError? (do
        (policy.checkIds [id]).mapError .naming
        (policy.checkApiNames names).mapError .naming
        let compiled ← compile.mapError .action
        return compiled.register registry) refusal ↔
      policy.checkIds [id] = .error refusal ∨
        policy.checkIds [id] = .ok () ∧ policy.checkApiNames names = .error refusal := by
  refine SessionError.refusal_of_check_iff.trans (or_congr_right (and_congr_right fun _ ↦ ?_))
  refine SessionError.refusal_of_check_iff.trans (or_iff_left (not_and_of_not_right _ ?_))
  refine not_reports_bind ?_ fun _ ↦ not_reports_pure
  rw [reports_mapError_iff]
  exact hcompile

namespace Definition

/-- The names that a definition checks before anything else. -/
def checkNames (policy : NamingPolicy) : Definition → Except NameError Unit
  | .sharedProperty draft => policy.checkIds [policy.id draft.name]
  | .valueType draft => (policy.id draft.name).check
  | .interfaceType draft =>
    policy.checkIds (policy.id draft.name :: (draft.build policy).properties.map (·.id))
  | .objectType draft => do
    policy.checkIds [policy.id draft.name]
    policy.checkApiNames (draft.properties.map (·.apiName))
  | .generatedAction draft => do
    policy.checkIds [draft.actionId policy]
    policy.checkApiNames (draft.configuration.map (·.1))
  | .manualAction draft => do
    policy.checkIds [policy.id draft.name]
    policy.checkApiNames (draft.parameters.map (·.id))

/-- A definition refuses a name when the check of its names does, and with that refusal. -/
theorem refusal_iff (definition : Definition) :
    Reports SessionError.nameError? (definition.apply policy registry) refusal ↔
      definition.checkNames policy = .error refusal := by
  rw [apply_eq]
  cases definition with
  | sharedProperty draft =>
    rw [reports_mapError_iff]
    exact draft.refusal_iff
  | valueType draft =>
    rw [reports_mapError_iff, ValueTypeDraft.define_eq]
    exact SchemaError.refusal_of_check_iff.trans
      (or_iff_left (not_and_of_not_right _ not_reports_pure))
  | interfaceType draft =>
    rw [reports_mapError_iff]
    exact draft.refusal_iff
  | objectType draft =>
    rw [reports_mapError_iff, checkNames, bind_eq_error_iff, exists_unit_eq_ok_and_iff]
    exact draft.refusal_iff
  | generatedAction draft =>
    rw [checkNames, bind_eq_error_iff, exists_unit_eq_ok_and_iff]
    exact CompiledAction.refusal_iff (draft.qualify policy).compile_refuses_no_name
  | manualAction draft =>
    rw [checkNames, bind_eq_error_iff, exists_unit_eq_ok_and_iff]
    have hids : (draft.qualify policy).parameters.map (·.id) = draft.parameters.map (·.id) := rfl
    exact CompiledAction.refusal_iff (draft.qualify policy).compile_refuses_no_name

/-- Without strictness the check looks at the identifiers of value types alone. -/
theorem checkNames_relaxed_iff (hrelaxed : policy.strict = false) (definition : Definition) :
    definition.checkNames policy = .error refusal ↔
      ∃ draft, definition = .valueType draft ∧ (policy.id draft.name).check = .error refusal := by
  have hids (ids : List Identifier) : policy.checkIds ids = .ok () := by
    rw [NamingPolicy.checkIds, hrelaxed]
    rfl
  have hnames (names : List String) : policy.checkApiNames names = .ok () := by
    rw [NamingPolicy.checkApiNames, hrelaxed]
    rfl
  cases definition <;> simp [checkNames, hids, hnames, bind_eq_error_iff]

end Definition

theorem Identifier.check_eq_error_iff {id : Identifier} : id.check = .error refusal ↔
    ¬ id.WellFormed ∧ refusal = .invalidIdentifier id.text .qualifiedName := by
  unfold check
  by_cases hformed : id.WellFormed <;> simp [hformed, eq_comm (a := refusal)]

/-! ### Sessions that are not strict -/

namespace Session

/-- What a session refuses for its name is what the check of the names refuses. -/
theorem refusal_iff {session : Session} {definition : Definition} :
    Reports SessionError.nameError? (session.define definition) refusal ↔
      definition.checkNames session.policy = .error refusal := by
  rw [define_eq, reports_map_iff]
  exact definition.refusal_iff

/-- In a session that is not strict a definition is refused for a name exactly when it defines a
value type whose identifier breaks the naming rule, and then with that identifier. -/
theorem refusal_relaxed {options : SessionOptions} {start : Session}
    (hstart : Session.start options = .ok start) (hrelaxed : options.strict = false)
    (registry : Registry) (definition : Definition) (refusal : NameError) :
    (∃ error, { start with registry }.define definition = .error error ∧
        error.nameError? = some refusal) ↔
      ∃ draft, definition = .valueType draft ∧ ¬ (start.policy.id draft.name).WellFormed ∧
        refusal = .invalidIdentifier (start.policy.id draft.name).text .qualifiedName := by
  have hpolicy : start.policy.strict = false := (of_start hstart).2.trans hrelaxed
  have hrefuses : Reports SessionError.nameError? ({ start with registry }.define definition)
        refusal ↔
      ∃ draft, definition = .valueType draft ∧
        (start.policy.id draft.name).check = .error refusal :=
    refusal_iff.trans (definition.checkNames_relaxed_iff hpolicy)
  simp only [Identifier.check_eq_error_iff] at hrefuses
  exact hrefuses

end Session

/-- A value type of postal codes, named by two words. -/
def Fixture.postalCode : ValueTypeDraft where
  name := .auto "postal code"
  version := "1.0.0"
  baseType := text

namespace Session

/-- The blank in the name of the postal codes. -/
theorem exists_postalCode :
    ∃ start, Session.start { qualifier := "com.example", strict := false } = .ok start ∧
      start.policy.id Fixture.postalCode.name = ⟨"com.example.postal code"⟩ ∧
      ¬ (⟨"com.example.postal code"⟩ : Identifier).WellFormed := by
  have hcomputed : (Session.start { qualifier := "com.example", strict := false }).toOption.map
      (fun start ↦ start.policy.id Fixture.postalCode.name) =
        some ⟨"com.example.postal code"⟩ := by
    decide +kernel
  have hbroken : ¬ (⟨"com.example.postal code"⟩ : Identifier).WellFormed := by decide +kernel
  obtain ⟨start, hstart, hid⟩ := exists_of_toOption_map hcomputed
  exact ⟨start, hstart, hid, hbroken⟩

/-- The identifier of the postal codes is refused for the blank. -/
theorem refusal_relaxed_postalCode :
    ∃ start, Session.start { qualifier := "com.example", strict := false } = .ok start ∧
      ∃ error, { start with registry := .empty }.define (.valueType Fixture.postalCode) =
          .error error ∧
        error.nameError? = some (.invalidIdentifier "com.example.postal code" .qualifiedName) := by
  obtain ⟨start, hstart, hid, hbroken⟩ := exists_postalCode
  refine ⟨start, hstart, (refusal_relaxed hstart rfl .empty _ _).mpr ⟨_, rfl, ?_⟩⟩
  rw [hid]
  exact ⟨hbroken, rfl⟩

/-- A session may refuse a name for its syntax although it is not strict. -/
theorem not_forall_relaxed_names_accepted :
    ¬ ∀ (options : SessionOptions) (start : Session) (registry : Registry)
      (definition : Definition) (value : String) (rule : NamingRule),
      Session.start options = .ok start → options.strict = false →
      ¬ ∃ error, { start with registry }.define definition = .error error ∧
        error.nameError? = some (.invalidIdentifier value rule) := by
  intro hall
  obtain ⟨start, hstart, hid, hbroken⟩ := exists_postalCode
  refine hall _ start .empty (.valueType Fixture.postalCode) "com.example.postal code"
    .qualifiedName hstart rfl ?_
  have hcheck : Definition.checkNames start.policy (.valueType Fixture.postalCode) =
      .error (.invalidIdentifier "com.example.postal code" .qualifiedName) := by
    rw [Definition.checkNames, hid, Identifier.check_eq_error_iff]
    exact ⟨hbroken, rfl⟩
  exact refusal_iff.mpr hcheck

end Session

end Ontology
