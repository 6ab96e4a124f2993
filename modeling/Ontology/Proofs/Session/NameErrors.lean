import Ontology.Proofs.Action.CanonicalForm
import Ontology.Proofs.Inheritance.Flattening
import Ontology.Session

/-!
Errors that refuse a name. An error refuses a name when it says so itself or passes such an error
on (`nameError?`). Names are looked at in one place only, at the start of a definition: neither
walking through interfaces, nor building the parts of an object, nor compiling an action refuses a
name, whatever the registry holds. The statements follow the definitions from the checks on single
values up to `CrudDefinition.compile_refuses_no_name` and
`ManualDefinition.compile_refuses_no_name`.
-/

set_option autoImplicit false
set_option relaxedAutoImplicit false

namespace Ontology

open Outcome

/-- The refusal of a name that an error about entities stands for. -/
@[simp] def SchemaError.nameError? : SchemaError → Option NameError
  | .naming error => some error
  | _ => none

/-- The refusal of a name that an error in an action stands for. -/
@[simp] def ActionError.nameError? : ActionError → Option NameError
  | .schema error => error.nameError?
  | _ => none

variable {refusal : NameError} {policy : NamingPolicy} {registry : Registry} {scope : Scope}

/-! ### Interfaces -/

namespace Registry

variable {root id : Identifier} {found : List EffectiveProperty}

theorem mergeDeclared_refuses_no_name (declared : List InterfaceProperty) :
    ¬ Reports SchemaError.nameError? (registry.mergeDeclared root id found declared) refusal := by
  rintro ⟨error, herror, hname⟩
  cases mergeDeclared_meets_declarationError.error herror <;> cases hname

theorem collectProperties_refuses_no_name (trail : List Identifier) :
    ¬ Reports SchemaError.nameError? (registry.collectProperties root trail found id) refusal := by
  fun_induction registry.collectProperties root trail found id with
  | case1 => simp
  | case2 => simp
  | case3 trail found id htrail interface hinterface ih =>
    refine not_reports_bind (mergeDeclared_refuses_no_name interface.properties) fun own ↦ ?_
    exact not_reports_foldlM (fun parent _ before ↦ ih before parent) own

theorem interfaceProperties_refuses_no_name (id : Identifier) :
    ¬ Reports SchemaError.nameError? (registry.interfaceProperties id) refusal :=
  collectProperties_refuses_no_name []

end Registry

/-! ### Objects -/

theorem ObjectPropertyDraft.buildAll_refuses_no_name {object : Identifier} {earlier : List String}
    (drafts : List ObjectPropertyDraft) :
    ¬ Reports SchemaError.nameError? (buildAll policy registry object earlier drafts) refusal := by
  induction drafts generalizing earlier with
  | nil => exact not_reports_ok
  | cons draft rest ih =>
    have hbuild :
        ¬ Reports SchemaError.nameError? (draft.build policy registry object) refusal := by
      cases draft with
      | declared => exact not_reports_ok
      | shared apiName name =>
        rw [build]
        split <;> simp
    rw [buildAll]
    split
    · simp [reports_bind_iff]
    · refine not_reports_bind hbuild fun property ↦ ?_
      exact not_reports_bind ih fun _ ↦ not_reports_pure

namespace Implementation

variable {object interface : Identifier} {properties : List ObjectProperty}

theorem checkMapping_refuses_no_name {effective : List EffectiveProperty}
    (mapping : PropertyMapping) :
    ¬ Reports SchemaError.nameError? (checkMapping object interface properties effective mapping)
      refusal := by
  unfold checkMapping
  split
  · split
    · split <;> simp
    · simp
  · simp

theorem completeMapping_refuses_no_name {mappings : List PropertyMapping}
    (property : EffectiveProperty) :
    ¬ Reports SchemaError.nameError?
      (completeMapping object interface properties mappings property) refusal := by
  unfold completeMapping
  split
  · exact not_reports_ok
  · split
    · exact not_reports_ok
    · split <;> simp

theorem resolve_refuses_no_name (mappings : List PropertyMapping) :
    ¬ Reports SchemaError.nameError? (resolve registry object interface properties mappings)
      refusal := by
  refine not_reports_bind (Registry.interfaceProperties_refuses_no_name interface)
    fun effective ↦ ?_
  refine not_reports_bind (not_reports_forM fun mapping _ ↦ checkMapping_refuses_no_name mapping)
    fun _ ↦ ?_
  refine not_reports_bind ?_ fun _ ↦ not_reports_pure
  exact not_reports_foldlM (fun property _ _ ↦ completeMapping_refuses_no_name property) mappings

end Implementation

theorem ObjectDraft.checkProperty_refuses_no_name {object : Identifier}
    {properties : List ObjectProperty} (name : String) :
    ¬ Reports SchemaError.nameError? (checkProperty object properties name) refusal := by
  unfold checkProperty
  split <;> simp

/-! ### Lists of ids -/

theorem checkDeclared_refuses_no_name {declared : String → Bool} (referenced : List String) :
    ¬ Reports ActionError.nameError? (checkDeclared declared referenced) refusal := by
  unfold checkDeclared
  split <;> simp

theorem checkDistinct_refuses_no_name (earlier ids : List String) :
    ¬ Reports ActionError.nameError? (checkDistinct earlier ids) refusal := by
  induction ids generalizing earlier with
  | nil => exact not_reports_ok
  | cons id rest ih =>
    rw [checkDistinct]
    split
    · simp
    · exact ih (id :: earlier)

theorem resolveOrdering_refuses_no_name {action : Identifier} {expected : List String}
    (ordering : Option (List String)) :
    ¬ Reports ActionError.nameError? (resolveOrdering action expected ordering) refusal := by
  cases ordering with
  | none => exact not_reports_ok
  | some ordering =>
    refine not_reports_bind ?_ fun _ ↦ not_reports_pure
    unfold checkOrdering
    split <;> simp

theorem Scope.require_refuses_no_name {id : String} (role : TargetRole) :
    ¬ Reports ActionError.nameError? (scope.require id role) refusal := by
  unfold require
  split <;> simp

/-! ### Conditions -/

theorem Comparison.Fault.nameError?_eq {comparison : Comparison} {error : ActionError}
    (h : comparison.Fault scope error) : error.nameError? = none := by
  cases h <;> rfl

theorem ConditionDraft.compile_refuses_no_name (condition : ConditionDraft) :
    ¬ Reports ActionError.nameError? (condition.compile scope) refusal := by
  rw [compile_eq]
  refine not_reports_bind (not_reports_forM fun comparison _ ↦ ?_) fun _ ↦ not_reports_ok
  rintro ⟨error, herror, hview⟩
  rw [(Comparison.check_eq_error_iff.mp herror).nameError?_eq] at hview
  cases hview

/-! ### Settings of parameters -/

section Settings

variable {id : String} {type : ParameterType}

theorem checkStaticValue_refuses_no_name (value : Literal) :
    ¬ Reports ActionError.nameError? (checkStaticValue id type value) refusal := by
  unfold checkStaticValue
  split <;> simp

theorem Prefill.check_refuses_no_name (prefill : Prefill) :
    ¬ Reports ActionError.nameError? (prefill.check id type) refusal := by
  cases prefill with
  | literal value => exact checkStaticValue_refuses_no_name value
  | objectProperty | currentUser | currentTime => exact not_reports_ok

theorem AllowedValues.check_refuses_no_name (allowed : AllowedValues) :
    ¬ Reports ActionError.nameError? (allowed.check id type) refusal := by
  unfold check
  split
  · exact not_reports_forM fun value _ ↦ checkStaticValue_refuses_no_name value
  · exact not_reports_ok

theorem Requirement.check_refuses_no_name (requirement : Requirement) :
    ¬ Reports ActionError.nameError? (requirement.check id) refusal := by
  unfold check
  split
  · split <;> simp
  · exact not_reports_ok

theorem Effect.normalize_refuses_no_name (effect : Effect) :
    ¬ Reports ActionError.nameError? (effect.normalize id type) refusal := by
  cases effect with
  | visibility => exact not_reports_ok
  | prefilled value => exact not_reports_bind value.check_refuses_no_name fun _ ↦ not_reports_pure
  | allowedValues admitted =>
    exact not_reports_bind admitted.check_refuses_no_name fun _ ↦ not_reports_pure
  | requirement demanded =>
    unfold normalize
    dsimp only
    split
    · exact not_reports_ok
    · exact not_reports_bind (Requirement.check_refuses_no_name _) fun _ ↦ not_reports_pure

theorem EffectsDraft.compile_refuses_no_name (draft : EffectsDraft) :
    ¬ Reports ActionError.nameError? (draft.compile scope id type) refusal := by
  refine not_reports_bind draft.condition.compile_refuses_no_name fun condition ↦ ?_
  refine not_reports_bind ?_ fun _ ↦ not_reports_pure
  exact not_reports_mapM fun effect _ ↦ effect.normalize_refuses_no_name

theorem ParameterDraft.configure_refuses_no_name (draft : ParameterDraft) (base : ValidationBlock) :
    ¬ Reports ActionError.nameError? (draft.configure scope id type base) refusal := by
  have hvalues (base : AllowedValues) :
      ¬ Reports ActionError.nameError? (draft.configuredValues id type base) refusal := by
    unfold configuredValues
    split
    · exact not_reports_ok
    · exact not_reports_bind (AllowedValues.check_refuses_no_name _) fun _ ↦ not_reports_pure
  have hrequirement (base : Requirement) :
      ¬ Reports ActionError.nameError? (draft.configuredRequirement id type base) refusal := by
    unfold configuredRequirement
    split
    · exact not_reports_ok
    · exact not_reports_bind (Requirement.check_refuses_no_name _) fun _ ↦ not_reports_pure
  have hprefill (base : Option Prefill) :
      ¬ Reports ActionError.nameError? (draft.configuredPrefill id type base) refusal := by
    unfold configuredPrefill
    split
    · exact not_reports_ok
    · exact not_reports_bind (Prefill.check_refuses_no_name _) fun _ ↦ not_reports_pure
  have hblock : ¬ Reports ActionError.nameError? (draft.configureBlock id type base) refusal := by
    refine not_reports_bind (hvalues _) fun _ ↦ ?_
    refine not_reports_bind (hrequirement _) fun _ ↦ ?_
    exact not_reports_bind (hprefill _) fun _ ↦ not_reports_pure
  refine not_reports_bind hblock fun _ ↦ ?_
  refine not_reports_bind ?_ fun _ ↦ not_reports_pure
  exact not_reports_mapM fun effects _ ↦ effects.compile_refuses_no_name

end Settings

theorem ParameterSketch.build_refuses_no_name (sketch : ParameterSketch)
    (draft : Option ParameterDraft) :
    ¬ Reports ActionError.nameError? (sketch.build scope draft) refusal := by
  cases draft with
  | none => exact not_reports_pure
  | some draft =>
    exact not_reports_bind (draft.configure_refuses_no_name sketch.base) fun _ ↦ not_reports_pure

/-! ### Generated parameters -/

namespace CrudDefinition

variable {definition : CrudDefinition} {target : ActionTarget}

theorem checkPropertyKey_refuses_no_name (key : String) :
    ¬ Reports ActionError.nameError? (definition.checkPropertyKey target key) refusal := by
  refine not_reports_bind ?_ fun _ ↦ ?_
  · unfold ActionTarget.requireProperty ActionTarget.unknownProperty
    split
    · split <;> simp
    · exact not_reports_ok
  · split <;> simp

theorem propertyParameter_refuses_no_name (property : TargetProperty) :
    ¬ Reports ActionError.nameError? (definition.propertyParameter property) refusal := by
  refine not_reports_bind ?_ fun _ ↦ not_reports_pure
  unfold propertyParameterType
  split
  · exact not_reports_ok
  · split <;> simp

theorem addedParameters_refuses_no_name {existing : List String} (earlier : List String)
    (configuration : List (String × ParameterDraft)) :
    ¬ Reports ActionError.nameError? (addedParameters target existing earlier configuration)
      refusal := by
  induction configuration generalizing earlier with
  | nil => exact not_reports_ok
  | cons entry rest ih =>
    obtain ⟨id, draft⟩ := entry
    have hadded : ¬ Reports ActionError.nameError? (addedParameter target id draft) refusal := by
      unfold addedParameter
      split
      · exact not_reports_ok
      · split <;> simp
    rw [addedParameters]
    split
    · simp [reports_bind_iff]
    · split
      · exact ih _
      · refine not_reports_bind hadded fun _ ↦ ?_
        exact not_reports_bind (ih _) fun _ ↦ not_reports_pure

theorem synthesize_refuses_no_name :
    ¬ Reports ActionError.nameError? (definition.synthesize target) refusal := by
  refine not_reports_bind (not_reports_forM fun key _ ↦ checkPropertyKey_refuses_no_name key)
    fun _ ↦ ?_
  refine not_reports_bind
    (not_reports_mapM fun property _ ↦ propertyParameter_refuses_no_name property) fun _ ↦ ?_
  exact not_reports_bind (addedParameters_refuses_no_name _ _) fun _ ↦ not_reports_pure

end CrudDefinition

/-! ### Rules -/

theorem ValueSource.check_refuses_no_name {property : String} {type : PropertyType}
    (value : ValueSource) :
    ¬ Reports ActionError.nameError? (value.check registry scope property type) refusal := by
  refine not_reports_bind (checkDeclared_refuses_no_name _) fun _ ↦ ?_
  cases value with
  | parameter | currentUser | currentTime => exact not_reports_pure
  | literal held =>
    dsimp only
    split
    · simp
    · split <;> simp
  | objectProperty holder source =>
    dsimp only
    split
    · split
      · simp
      · split <;> simp
    · exact not_reports_pure

namespace CrudDefinition

variable {definition : CrudDefinition} {target : ActionTarget}

theorem bindings_refuses_no_name :
    ¬ Reports ActionError.nameError? (definition.bindings registry scope target) refusal := by
  refine not_reports_bind (not_reports_mapM fun property _ ↦ ?_) fun _ ↦ not_reports_pure
  unfold binding?
  split
  · exact not_reports_bind (ValueSource.check_refuses_no_name _) fun _ ↦ not_reports_pure
  · split <;> exact not_reports_ok

theorem structuralId_refuses_no_name (role : TargetRole) :
    ¬ Reports ActionError.nameError? (structuralId scope role) refusal :=
  not_reports_bind (Scope.require_refuses_no_name role) fun _ ↦ not_reports_pure

theorem rule_refuses_no_name :
    ¬ Reports ActionError.nameError? (definition.rule registry scope target) refusal := by
  have hobject : ¬ Reports ActionError.nameError?
      (definition.objectBindings registry scope target) refusal :=
    not_reports_bind bindings_refuses_no_name fun _ ↦ not_reports_pure
  have hinterface : ¬ Reports ActionError.nameError?
      (definition.interfaceBindings registry scope target) refusal :=
    not_reports_bind bindings_refuses_no_name fun _ ↦ not_reports_pure
  unfold rule
  split <;> simp [reports_bind_iff, structuralId_refuses_no_name, hobject, hinterface]

end CrudDefinition

namespace Rule

theorem targetObject_refuses_no_name {parameter : String} (role : TargetRole) :
    ¬ Reports ActionError.nameError? (targetObject scope parameter role) refusal := by
  refine not_reports_bind (Scope.require_refuses_no_name role) fun type ↦ ?_
  split <;> simp

theorem checkObjectBindings_refuses_no_name {objectType : Identifier}
    (bindings : List ObjectBinding) :
    ¬ Reports ActionError.nameError? (checkObjectBindings registry scope objectType bindings)
      refusal := by
  unfold checkObjectBindings
  split
  · simp
  · refine not_reports_forM fun binding _ ↦ ?_
    split
    · simp
    · exact ValueSource.check_refuses_no_name binding.value

theorem checkInterfaceBindings_refuses_no_name {interfaceType : Identifier}
    (bindings : List InterfaceBinding) :
    ¬ Reports ActionError.nameError? (checkInterfaceBindings registry scope interfaceType bindings)
      refusal := by
  refine not_reports_bind ?_ fun effective ↦ not_reports_forM fun binding _ ↦ ?_
  · rw [ActionError.ofSchema, reports_mapError_iff]
    exact Registry.interfaceProperties_refuses_no_name interfaceType
  · split
    · simp
    · exact ValueSource.check_refuses_no_name binding.value

theorem check_refuses_no_name (rule : Rule) :
    ¬ Reports ActionError.nameError? (rule.check registry scope) refusal := by
  cases rule with
  | addObject => exact checkObjectBindings_refuses_no_name _
  | modifyObject | addOrModifyObject =>
    exact not_reports_bind (targetObject_refuses_no_name _) fun _ ↦
      checkObjectBindings_refuses_no_name _
  | deleteObject =>
    refine not_reports_bind (Scope.require_refuses_no_name _) fun type ↦ ?_
    split <;> simp
  | addInterface =>
    exact not_reports_bind (Scope.require_refuses_no_name _) fun _ ↦
      checkInterfaceBindings_refuses_no_name _
  | modifyInterface interfaceType target objectType values =>
    refine not_reports_bind (Scope.require_refuses_no_name _) fun _ ↦ ?_
    cases objectType with
    | none => exact checkInterfaceBindings_refuses_no_name values
    | some objectType =>
      exact not_reports_bind (Scope.require_refuses_no_name _) fun _ ↦
        checkInterfaceBindings_refuses_no_name values

end Rule

/-! ### Forms and submissions -/

theorem SectionDraft.compileAll_refuses_no_name (earlier : List String)
    (placed : List (String × String)) (drafts : List SectionDraft) :
    ¬ Reports ActionError.nameError? (compileAll scope earlier placed drafts) refusal := by
  have hplace (id : String) (placed : List (String × String)) (parameters : List String) :
      ¬ Reports ActionError.nameError? (place id placed parameters) refusal := by
    induction parameters generalizing placed with
    | nil => exact not_reports_ok
    | cons parameter rest ih =>
      rw [place]
      split
      · simp
      · exact ih _
  have hvalidation (draft : SectionDraft) :
      ¬ Reports ActionError.nameError? (draft.compileValidation scope) refusal := by
    refine not_reports_bind (not_reports_mapM fun override _ ↦ ?_) fun _ ↦ not_reports_pure
    exact not_reports_bind override.1.compile_refuses_no_name fun _ ↦ not_reports_pure
  induction drafts generalizing earlier placed with
  | nil => exact not_reports_ok
  | cons draft rest ih =>
    rw [compileAll]
    split
    · simp [reports_bind_iff]
    · refine not_reports_bind (hplace _ _ _) fun placed ↦ ?_
      refine not_reports_bind (hvalidation draft) fun _ ↦ ?_
      exact not_reports_bind (ih _ placed) fun _ ↦ not_reports_pure

theorem ActionFrame.assemble_refuses_no_name {frame : ActionFrame} {id : Identifier}
    {defaultName : String} {logic : List Rule} {parameters : List Parameter}
    {ordering : List String} :
    ¬ Reports ActionError.nameError?
      (frame.assemble id scope defaultName logic parameters ordering) refusal := by
  refine not_reports_bind ?_ fun layout ↦ not_reports_bind ?_ fun _ ↦ not_reports_pure
  · refine not_reports_bind (checkDeclared_refuses_no_name _) fun _ ↦ ?_
    exact not_reports_bind (SectionDraft.compileAll_refuses_no_name _ _ _) fun _ ↦ not_reports_pure
  · refine not_reports_bind (not_reports_mapM fun rule _ ↦ ?_) fun declared ↦ ?_
    · exact not_reports_bind rule.condition.compile_refuses_no_name fun _ ↦ not_reports_pure
    · split <;> exact not_reports_pure

/-! ### Actions -/

theorem ActionTarget.resolve_refuses_no_name (target : CrudTarget) :
    ¬ Reports ActionError.nameError? (resolve registry target) refusal := by
  have hdistinct (earlier properties : List EffectiveProperty) :
      ¬ Reports ActionError.nameError? (checkParameterIds earlier properties) refusal := by
    induction properties generalizing earlier with
    | nil => exact not_reports_ok
    | cons property rest ih =>
      rw [checkParameterIds]
      split
      · simp
      · exact ih _
  cases target with
  | object id =>
    rw [resolve]
    split <;> simp
  | interface id =>
    rw [resolve]
    split
    · simp
    · refine not_reports_bind ?_ fun properties ↦ ?_
      · rw [ActionError.ofSchema, reports_mapError_iff]
        exact Registry.interfaceProperties_refuses_no_name id
      · exact not_reports_bind (hdistinct _ properties) fun _ ↦ not_reports_pure

/-- Compiling a generated action refuses no name. -/
theorem CrudDefinition.compile_refuses_no_name (definition : CrudDefinition) :
    ¬ Reports ActionError.nameError? (definition.compile registry) refusal := by
  refine not_reports_bind (ActionTarget.resolve_refuses_no_name _) fun target ↦ ?_
  refine not_reports_bind synthesize_refuses_no_name fun sketches ↦ ?_
  refine not_reports_bind (resolveOrdering_refuses_no_name _) fun ordering ↦ ?_
  refine not_reports_bind (not_reports_mapM fun sketch _ ↦ sketch.build_refuses_no_name _)
    fun parameters ↦ ?_
  exact not_reports_bind rule_refuses_no_name fun rule ↦ ActionFrame.assemble_refuses_no_name

/-- Nor does compiling one that is spelled out. -/
theorem ManualDefinition.compile_refuses_no_name (definition : ManualDefinition) :
    ¬ Reports ActionError.nameError? (definition.compile registry) refusal := by
  refine not_reports_bind (checkDistinct_refuses_no_name _ _) fun _ ↦ ?_
  refine not_reports_bind (resolveOrdering_refuses_no_name _) fun ordering ↦ ?_
  refine not_reports_bind (not_reports_forM fun rule _ ↦ rule.check_refuses_no_name) fun _ ↦ ?_
  refine not_reports_bind
    (not_reports_mapM fun parameter _ ↦ parameter.sketch.build_refuses_no_name _)
    fun parameters ↦ ?_
  exact ActionFrame.assemble_refuses_no_name

end Ontology
