import Ontology.Proofs.Action.Conditions

/-!
Single comparisons. A comparison may read parameters on both sides, and it may hold a literal
against a side that has a type. It is well formed when the parameters are declared and the literal
has the type that the operator asks of it (`Comparison.WellFormed`). A comparison that is not well
formed has one fault: the first parameter that is not declared, or else the literal
(`Comparison.Fault`). The check of comparisons accepts those that are well formed
(`check_eq_ok_iff`) and reports the fault of the others (`check_eq_error_iff`).
-/

set_option autoImplicit false
set_option relaxedAutoImplicit false

namespace Ontology

open Outcome

/-- A comparison between two sides. -/
structure Comparison where
  operator : Operator
  left : Operand
  right : Operand

variable {scope : Scope} {comparison : Comparison} {operand : Operand} {subject : String}
  {type : ParameterType} {value : Literal} {error : ActionError}

/-! ### Types of literals -/

namespace Operator

/-- What an operator asks of a literal, given the type of the other side: an item is included in a
list, a value is one of a list of its like, patterns and prefixes are texts, and all other operators
compare values of one type. -/
inductive Asks : Operator → ParameterType → ParameterType → Prop
  | item {item : ParameterType} : Asks .includes (.list item) item
  | single {type : ParameterType} (hsingle : type.isList = false) : Asks .includes type type
  | list {type : ParameterType} : Asks .isIncludedIn type (.list type)
  | text {operator : Operator} {type : ParameterType}
      (htext : operator = .matchesPattern ∨ operator = .startsWith) : Asks operator type .string
  | same {operator : Operator} {type : ParameterType}
      (hother : operator ∉ [.includes, .isIncludedIn, .matchesPattern, .startsWith]) :
      Asks operator type type

theorem asks_iff {operator : Operator} {type expected : ParameterType} :
    operator.Asks type expected ↔ operator.literalType type = expected := by
  constructor
  · intro h
    cases h with
    | item | list => rfl
    | single hsingle =>
      cases type with
      | list => cases hsingle
      | _ => rfl
    | text htext => rcases htext with rfl | rfl <;> rfl
    | same hother =>
      cases operator with
      | includes | isIncludedIn | matchesPattern | startsWith => simp at hother
      | _ => rfl
  · rintro rfl
    cases operator with
    | includes =>
      cases type with
      | list item => exact .item
      | _ => exact .single rfl
    | isIncludedIn => exact .list
    | matchesPattern => exact .text (.inl rfl)
    | startsWith => exact .text (.inr rfl)
    | _ => exact .same (by simp)

end Operator

/-! ### Sides that have a type -/

namespace Operand

/-- A side of a comparison has a type, and goes by some name in messages. Literals have none here,
as they are typed by the other side. -/
inductive HasType (scope : Scope) : Operand → String → ParameterType → Prop
  | parameter {id : String} {type : ParameterType} (htype : scope.type? id = some type) :
      HasType scope (.parameter id) id type
  | userProperty {user : UserReference} {property : UserProperty} :
      HasType scope (.userProperty user property) property.label property.type

/-- A side has one type and one name. -/
theorem HasType.unique {otherSubject : String} {otherType : ParameterType}
    (h : operand.HasType scope subject type)
    (hother : operand.HasType scope otherSubject otherType) :
    subject = otherSubject ∧ type = otherType := by
  cases h with
  | parameter htype =>
    cases hother with
    | parameter hothertype => exact ⟨rfl, Option.some.inj (htype.symm.trans hothertype)⟩
  | userProperty =>
    cases hother
    exact ⟨rfl, rfl⟩

/-- What is found about one side: nothing about a literal, the type of a side whose parameter is
declared, and else the parameter that is not. -/
inductive Typing (scope : Scope) :
    Operand → Except ActionError (Option (String × ParameterType)) → Prop
  | literal {value : Literal} : Typing scope (.literal value) (.ok none)
  | typed {operand : Operand} {subject : String} {type : ParameterType}
      (htype : operand.HasType scope subject type)
      (hdeclared : ∀ id, operand.parameter? = some id → scope.declares id) :
      Typing scope operand (.ok (some (subject, type)))
  | undeclared {operand : Operand} {id : String} (hid : operand.parameter? = some id)
      (hundeclared : scope.declares id = false) :
      Typing scope operand (.error (.unknownConditionParameter id))

end Operand

namespace Scope

/-- The type of a parameter is found when it is declared. -/
theorem conditionType_cases (scope : Scope) (id : String) :
    (∃ type, scope.type? id = some type ∧ scope.declares id ∧ scope.conditionType id = .ok type) ∨
      scope.declares id = false ∧
        scope.conditionType id = .error (.unknownConditionParameter id) := by
  unfold conditionType declares
  cases scope.type? id with
  | none => exact .inr ⟨rfl, rfl⟩
  | some type => exact .inl ⟨type, rfl, rfl, rfl⟩

theorem operandType_typing (scope : Scope) (operand : Operand) :
    operand.Typing scope (scope.operandType operand) := by
  cases operand with
  | literal value => exact .literal
  | parameter id =>
    rw [operandType]
    rcases scope.conditionType_cases id with ⟨type, htype, hdeclares, hfound⟩ | ⟨hnone, hfound⟩
    · rw [hfound]
      exact .typed (.parameter htype) fun _ hid ↦ Option.some.inj hid ▸ hdeclares
    · rw [hfound]
      exact .undeclared rfl hnone
  | userProperty user property =>
    rw [operandType]
    cases user with
    | currentUser =>
      refine .typed .userProperty fun _ hid ↦ ?_
      cases hid
    | parameter id =>
      rw [checkUser]
      rcases scope.conditionType_cases id with ⟨type, -, hdeclares, hfound⟩ | ⟨hnone, hfound⟩
      · rw [hfound]
        exact .typed .userProperty fun _ hid ↦ Option.some.inj hid ▸ hdeclares
      · rw [hfound]
        exact .undeclared rfl hnone

end Scope

/-! ### Well-formed comparisons and faults -/

namespace Comparison

/-- The ids of the parameters that a comparison reads, from left to right. -/
def parameters (comparison : Comparison) : List String :=
  comparison.left.parameter?.toList ++ comparison.right.parameter?.toList

/-- One side is a literal, and the other one has a type. -/
inductive Against (scope : Scope) : Comparison → String → ParameterType → Literal → Prop
  | right {operator : Operator} {operand : Operand} {value : Literal} {subject : String}
      {type : ParameterType} (htype : operand.HasType scope subject type) :
      Against scope ⟨operator, operand, .literal value⟩ subject type value
  | left {operator : Operator} {operand : Operand} {value : Literal} {subject : String}
      {type : ParameterType} (htype : operand.HasType scope subject type) :
      Against scope ⟨operator, .literal value, operand⟩ subject type value

/-- The parameters of a comparison are declared, and a literal that stands against a side of some
type has the type that the operator then asks of it. -/
structure WellFormed (scope : Scope) (comparison : Comparison) : Prop where
  declared : ∀ id ∈ comparison.parameters, scope.declares id
  literal : ∀ subject type value, comparison.Against scope subject type value →
    ∀ expected, comparison.operator.Asks type expected → expected.admits value

/-- What is wrong with a comparison: the first parameter that is not declared, or else a literal of
the wrong type. -/
inductive Fault (scope : Scope) (comparison : Comparison) : ActionError → Prop
  | undeclared {id : String}
      (hfirst : comparison.parameters.find? (fun id ↦ !scope.declares id) = some id) :
      Fault scope comparison (.unknownConditionParameter id)
  | literal {subject : String} {type expected : ParameterType} {value : Literal}
      (hdeclared : ∀ id ∈ comparison.parameters, scope.declares id)
      (hagainst : comparison.Against scope subject type value)
      (hasks : comparison.operator.Asks type expected) (hrefused : expected.admits value = false) :
      Fault scope comparison (.conditionValueMismatch subject expected value)

/-- Only one literal of a comparison stands against a type. -/
theorem Against.unique {otherSubject : String} {otherType : ParameterType} {otherValue : Literal}
    (h : comparison.Against scope subject type value)
    (hother : comparison.Against scope otherSubject otherType otherValue) :
    subject = otherSubject ∧ type = otherType ∧ value = otherValue := by
  cases h with
  | right htype =>
    cases hother with
    | right hothertype =>
      obtain ⟨rfl, rfl⟩ := htype.unique hothertype
      exact ⟨rfl, rfl, rfl⟩
    | left => cases htype
  | left htype =>
    cases hother with
    | left hothertype =>
      obtain ⟨rfl, rfl⟩ := htype.unique hothertype
      exact ⟨rfl, rfl, rfl⟩
    | right => cases htype

theorem find?_undeclared_eq_none_iff :
    comparison.parameters.find? (fun id ↦ !scope.declares id) = none ↔
      ∀ id ∈ comparison.parameters, scope.declares id := by
  simp

/-- What is well formed has no fault. -/
theorem WellFormed.not_fault (h : comparison.WellFormed scope) :
    ¬ comparison.Fault scope error := by
  rintro (⟨hfirst⟩ | ⟨-, hagainst, hasks, hrefused⟩)
  · rw [find?_undeclared_eq_none_iff.mpr h.declared] at hfirst
    cases hfirst
  · rw [h.literal _ _ _ hagainst _ hasks] at hrefused
    cases hrefused

/-- A comparison has no more than one fault. -/
theorem Fault.unique {other : ActionError} (h : comparison.Fault scope error)
    (hother : comparison.Fault scope other) : error = other := by
  cases h with
  | undeclared hfirst =>
    cases hother with
    | undeclared hotherfirst => rw [Option.some.inj (hfirst.symm.trans hotherfirst)]
    | literal hdeclared =>
      rw [find?_undeclared_eq_none_iff.mpr hdeclared] at hfirst
      cases hfirst
  | literal hdeclared hagainst hasks =>
    cases hother with
    | undeclared hfirst =>
      rw [find?_undeclared_eq_none_iff.mpr hdeclared] at hfirst
      cases hfirst
    | literal _ hotheragainst hotherasks =>
      obtain ⟨rfl, rfl, rfl⟩ := hagainst.unique hotheragainst
      rw [← Operator.asks_iff.mp hasks, ← Operator.asks_iff.mp hotherasks]

/-! ### The check -/

/-- Accepts a comparison between the two sides. -/
def check (scope : Scope) (comparison : Comparison) : Except ActionError Unit :=
  scope.checkComparison comparison.operator comparison.left comparison.right

theorem forall_mem_parameters_iff {p : String → Prop} :
    (∀ id ∈ comparison.parameters, p id) ↔
      (∀ id, comparison.left.parameter? = some id → p id) ∧
        ∀ id, comparison.right.parameter? = some id → p id := by
  simp [parameters, or_imp, forall_and]

theorem Fault.of_left {id : String} (hid : comparison.left.parameter? = some id)
    (hundeclared : scope.declares id = false) :
    comparison.Fault scope (.unknownConditionParameter id) := by
  refine .undeclared ?_
  rw [parameters, hid, Option.toList_some, List.singleton_append, List.find?_cons, hundeclared]
  rfl

theorem Fault.of_right {id : String}
    (hleft : ∀ id, comparison.left.parameter? = some id → scope.declares id)
    (hid : comparison.right.parameter? = some id) (hundeclared : scope.declares id = false) :
    comparison.Fault scope (.unknownConditionParameter id) := by
  refine .undeclared ?_
  have hnone : comparison.left.parameter?.toList.find? (fun id ↦ !scope.declares id) = none := by
    simpa using hleft
  rw [parameters, List.find?_append, hnone, Option.none_or, hid, Option.toList_some,
    List.find?_singleton, hundeclared]
  rfl

/-- A literal that stands against a type passes when it has the type that the operator asks for, and
is the fault otherwise. -/
theorem checkComparedLiteral_cases (hdeclared : ∀ id ∈ comparison.parameters, scope.declares id)
    (hagainst : comparison.Against scope subject type value) :
    comparison.WellFormed scope ∧
        checkComparedLiteral subject type comparison.operator value = .ok () ∨
      ∃ error, comparison.Fault scope error ∧
        checkComparedLiteral subject type comparison.operator value = .error error := by
  unfold checkComparedLiteral
  dsimp only
  by_cases hadmits : (comparison.operator.literalType type).admits value
  · refine .inl ⟨⟨hdeclared, fun _ _ _ hother expected hasks ↦ ?_⟩, if_pos hadmits⟩
    obtain ⟨rfl, rfl, rfl⟩ := hagainst.unique hother
    rwa [← Operator.asks_iff.mp hasks]
  · have hrefused : (comparison.operator.literalType type).admits value = false := by
      simpa using hadmits
    have hasks := Operator.asks_iff.mpr (Eq.refl (comparison.operator.literalType type))
    exact .inr ⟨_, .literal hdeclared hagainst hasks hrefused, if_neg hadmits⟩

/-- The check accepts a comparison that is well formed, and reports the fault of any other. -/
theorem check_cases (scope : Scope) (comparison : Comparison) :
    comparison.WellFormed scope ∧ comparison.check scope = .ok () ∨
      ∃ error, comparison.Fault scope error ∧ comparison.check scope = .error error := by
  obtain ⟨operator, left, right⟩ := comparison
  have hleft := scope.operandType_typing left
  have hright := scope.operandType_typing right
  unfold check Scope.checkComparison
  dsimp only
  generalize scope.operandType left = leftType at hleft
  generalize scope.operandType right = rightType at hright
  cases hleft with
  | undeclared hid hundeclared => exact .inr ⟨_, .of_left hid hundeclared, rfl⟩
  | literal =>
    cases hright with
    | undeclared hid hundeclared => exact .inr ⟨_, .of_right nofun hid hundeclared, rfl⟩
    | literal =>
      refine .inl ⟨⟨forall_mem_parameters_iff.mpr ⟨nofun, nofun⟩, fun _ _ _ hagainst ↦ ?_⟩, rfl⟩
      cases hagainst with
      | right htype | left htype => cases htype
    | typed htype hdeclared =>
      exact checkComparedLiteral_cases (forall_mem_parameters_iff.mpr ⟨nofun, hdeclared⟩)
        (.left htype)
  | typed htype hdeclared =>
    cases hright with
    | undeclared hid hundeclared => exact .inr ⟨_, .of_right hdeclared hid hundeclared, rfl⟩
    | literal =>
      exact checkComparedLiteral_cases (forall_mem_parameters_iff.mpr ⟨hdeclared, nofun⟩)
        (.right htype)
    | typed hother hotherdeclared =>
      refine .inl ⟨⟨forall_mem_parameters_iff.mpr ⟨hdeclared, hotherdeclared⟩,
        fun _ _ _ hagainst ↦ ?_⟩, rfl⟩
      cases hagainst with
      | right => cases hother
      | left => cases htype

/-- The check accepts the comparisons that are well formed. -/
theorem check_eq_ok_iff : comparison.check scope = .ok () ↔ comparison.WellFormed scope := by
  rcases comparison.check_cases scope with ⟨hformed, hcheck⟩ | ⟨error, hfault, hcheck⟩
  · exact iff_of_true hcheck hformed
  · rw [hcheck]
    exact iff_of_false nofun fun hformed ↦ hformed.not_fault hfault

/-- It reports the fault of the others. -/
theorem check_eq_error_iff :
    comparison.check scope = .error error ↔ comparison.Fault scope error := by
  rcases check_cases scope comparison with ⟨hformed, hcheck⟩ | ⟨reported, hfault, hcheck⟩
  · rw [hcheck]
    exact iff_of_false nofun hformed.not_fault
  · rw [hcheck, Except.error.injEq]
    exact ⟨fun h ↦ h ▸ hfault, hfault.unique⟩

end Comparison

end Ontology
