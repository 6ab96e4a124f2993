import Ontology.Proofs.Action.Drafts
import Ontology.Proofs.Action.References

/-!
What rules read off the objects that parameters hold. A property may take its value from a property
of the object in a parameter. The parameter has to be declared, and where it holds objects of one
type, that type has to be registered and to have the property (`check_objectProperty_eq_ok_iff`). A
parameter that holds anything else is let through. So the reads of an action resolve exactly when
they all go through parameters that hold objects (`compile_reads`), and one may go through a text
(`not_forall_reads_resolve`).
-/

set_option autoImplicit false
set_option relaxedAutoImplicit false

namespace Ontology

open Outcome

variable {registry : Registry} {scope : Scope}

/-! ### Reads -/

/-- The parameter that an object is taken from and the property of it that is read, if any. -/
def ValueSource.read? : ValueSource → Option (String × String)
  | .objectProperty holder source => some (holder, source)
  | .parameter _ | .literal _ | .currentUser | .currentTime => none

/-- What a rule reads off objects: the parameters that hold them, with the properties. -/
def Rule.reads (rule : Rule) : List (String × String) := rule.values.filterMap (·.read?)

/-- Whether a parameter of a type holds an object of one object type. -/
def ParameterType.holdsObject : ParameterType → Bool
  | .objectReference _ => true
  | _ => false

/-- A parameter of a type holds an object of a registered type that has a property. -/
def Registry.Reads (registry : Registry) (source : String) : ParameterType → Prop
  | .objectReference id =>
    ∃ object, registry.objectType? id = some object ∧ object.hasProperty source
  | _ => False

theorem Registry.Reads.holdsObject {source : String} {type : ParameterType}
    (h : registry.Reads source type) : type.holdsObject := by
  cases type with
  | objectReference => rfl
  | _ => exact h.elim

theorem ValueSource.read?_eq_some_iff {value : ValueSource} {holder source : String} :
    value.read? = some (holder, source) ↔ value = .objectProperty holder source := by
  cases value <;> simp [read?]

/-- A read is accepted when its parameter is declared and, where this holds an object, the property
can be read off it. -/
theorem ValueSource.check_objectProperty_eq_ok_iff {holder source property : String}
    {type : PropertyType} :
    (ValueSource.objectProperty holder source).check registry scope property type = .ok () ↔
      ∃ held, scope.type? holder = some held ∧ (held.holdsObject → registry.Reads source held) := by
  simp only [check, parameter?, Option.toList_some, bind_eq_ok_iff, checkDeclared_eq_ok_iff,
    List.forall_mem_singleton, exists_unit_eq_ok_and_iff, Scope.declares]
  cases hheld : scope.type? holder with
  | none => simp
  | some held =>
    simp only [Option.isSome_some, true_and, Option.some.injEq, exists_eq_left']
    cases held with
    | objectReference id =>
      cases hobject : registry.objectType? id with
      | none => simp [Registry.Reads, ParameterType.holdsObject, hobject]
      | some object =>
        simp only [ParameterType.holdsObject, Registry.Reads, hobject, Option.some.injEq,
          exists_eq_left', forall_const]
        split_ifs with hhas <;> simp [hhas]
    | _ => simp [ParameterType.holdsObject]

/-- What a rule with accepted values reads goes through declared parameters, and can be read where
these hold objects. -/
theorem Rule.Grounded.reads {rule : Rule} (h : rule.Grounded registry scope) :
    ∀ read ∈ rule.reads, ∃ held, scope.type? read.1 = some held ∧
      (registry.Reads read.2 held ↔ held.holdsObject) := by
  rintro ⟨holder, source⟩ hread
  obtain ⟨value, hvalue, hsource⟩ := List.mem_filterMap.mp hread
  obtain rfl := ValueSource.read?_eq_some_iff.mp hsource
  obtain ⟨property, type, hcheck⟩ := h.values _ hvalue
  obtain ⟨held, hheld, hreads⟩ := ValueSource.check_objectProperty_eq_ok_iff.mp hcheck
  exact ⟨held, hheld, Registry.Reads.holdsObject, hreads⟩

/-! ### Compiled actions -/

namespace ActionType

variable {action : ActionType}

/-- What the rules of an action read off objects. -/
def reads (action : ActionType) : List (String × String) := action.logic.flatMap (·.reads)

/-- The parameter that an id stands for in the rules of an action; of several the last counts. -/
def holder? (action : ActionType) (id : String) : Option Parameter :=
  action.parameters.reverse.find? (·.id = id)

theorem type?_parameterScope (id : String) :
    action.parameterScope.type? id = (action.holder? id).map (·.type) := by
  rw [parameterScope, Scope.type?, holder?, ← List.map_reverse, List.find?_map, Option.map_map]
  rfl

/-- Everything that the rules of an action read is a property of an object, of a registered type, in
a parameter of the action. -/
def ReadsResolve (registry : Registry) (action : ActionType) : Prop :=
  ∀ read ∈ action.reads, ∃ parameter ∈ action.holder? read.1, registry.Reads read.2 parameter.type

end ActionType

namespace ActionDefinition

variable {definition : ActionDefinition} {elaboration : Elaboration} {compiled : CompiledAction}

/-- The values in the rules of a compiled action have been accepted. -/
theorem grounded_of_compile (h : definition.compile registry = .ok compiled) :
    ∀ rule ∈ compiled.actionType.logic,
      rule.Grounded registry compiled.actionType.parameterScope := by
  obtain ⟨elaboration, helaborate, hlogic, hscope⟩ := exists_scope_of_compile h
  rw [hlogic, hscope]
  exact grounded_of_elaborate helaborate

/-- Everything that a compiled action reads off objects it takes from parameters of its own. It can
be read where the parameter holds an object, and nowhere else. So all reads resolve exactly when
they go through such parameters. -/
theorem compile_reads (h : definition.compile registry = .ok compiled) :
    (∀ read ∈ compiled.actionType.reads, ∃ parameter ∈ compiled.actionType.holder? read.1,
      registry.Reads read.2 parameter.type ↔ parameter.type.holdsObject) ∧
    (compiled.actionType.ReadsResolve registry ↔
      ∀ read ∈ compiled.actionType.reads, ∃ parameter ∈ compiled.actionType.holder? read.1,
        parameter.type.holdsObject) := by
  have hreads : ∀ read ∈ compiled.actionType.reads,
      ∃ parameter ∈ compiled.actionType.holder? read.1,
        registry.Reads read.2 parameter.type ↔ parameter.type.holdsObject := by
    intro read hread
    obtain ⟨rule, hrule, hread⟩ := List.mem_flatMap.mp hread
    obtain ⟨held, hheld, hresolves⟩ := (grounded_of_compile h rule hrule).reads read hread
    rw [ActionType.type?_parameterScope] at hheld
    obtain ⟨parameter, hparameter, rfl⟩ := Option.map_eq_some_iff.mp hheld
    exact ⟨parameter, hparameter, hresolves⟩
  refine ⟨hreads, forall₂_congr fun read hread ↦ ?_⟩
  obtain ⟨parameter, hparameter, hresolves⟩ := hreads read hread
  rw [Option.mem_def] at hparameter
  simpa only [Option.mem_def, hparameter, Option.some.injEq, exists_eq_left'] using hresolves

end ActionDefinition

/-- An action that creates a `foo` with the optional text of what a parameter of some type holds. -/
def Fixture.cloneFoo (original : ParameterType) : CrudDefinition where
  id := ⟨"com.example.clone-foo"⟩
  kind := .create
  target := .object ⟨"com.example.foo"⟩
  configuration := [("original", { type := some original })]
  fixedValues := [("optionalProp", .objectProperty "original" "optionalProp")]

namespace ActionDefinition

/-- Whatever the parameter holds, a clone of a `foo` reads its optional text. -/
theorem compile_cloneFoo :
    ∀ original ∈ [ParameterType.objectReference ⟨"com.example.foo"⟩, .string],
      ((generated (Fixture.cloneFoo original)).compile
        (Fixture.registry Fixture.foo)).toOption.map (fun compiled ↦
          (compiled.actionType.reads,
            (compiled.actionType.holder? "original").map (·.type.holdsObject))) =
        some ([("original", "optionalProp")], some original.holdsObject) := by
  decide +kernel

/-- A `foo` takes its optional text from another `foo`, in a parameter for such objects. -/
theorem compile_reads_cloneFoo :
    ∃ compiled,
      (generated (Fixture.cloneFoo (.objectReference ⟨"com.example.foo"⟩))).compile
          (Fixture.registry Fixture.foo) = .ok compiled ∧
        compiled.actionType.reads = [("original", "optionalProp")] ∧
        compiled.actionType.ReadsResolve (Fixture.registry Fixture.foo) := by
  obtain ⟨compiled, hcompile, hview⟩ :=
    exists_of_toOption_map (compile_cloneFoo _ List.mem_cons_self)
  obtain ⟨hreads, hholder⟩ := Prod.mk.inj hview
  obtain ⟨parameter, hparameter, hobject⟩ := Option.map_eq_some_iff.mp hholder
  refine ⟨compiled, hcompile, hreads, (compile_reads hcompile).2.mpr ?_⟩
  rw [hreads, List.forall_mem_singleton]
  exact ⟨parameter, hparameter, hobject⟩

/-- A `foo` takes its optional text from an object that is none, but a text. -/
theorem not_forall_reads_resolve :
    ¬ ∀ (registry : Registry) (definition : ActionDefinition) (compiled : CompiledAction),
      definition.compile registry = .ok compiled → compiled.actionType.ReadsResolve registry := by
  intro hall
  obtain ⟨compiled, hcompile, hview⟩ :=
    exists_of_toOption_map (compile_cloneFoo .string (by simp))
  obtain ⟨hreads, hholder⟩ := Prod.mk.inj hview
  have hresolve := hall _ _ _ hcompile
  rw [ActionType.ReadsResolve, hreads, List.forall_mem_singleton] at hresolve
  obtain ⟨parameter, hparameter, hresolve⟩ := hresolve
  rw [Option.mem_def] at hparameter
  rw [hparameter, Option.map_some, hresolve.holdsObject] at hholder
  cases hholder

end ActionDefinition

end Ontology
