import Ontology.Proofs.Action.Scope
import Ontology.Action.ConditionTyping

/-!
The parameters that a condition reads. `Condition.parameters` collects them from both sides of every
comparison, those that hold a user among them, at any depth. A condition that has been brought into
canonical form reads declared parameters only: `compile_declares` for a tree, and
`compileAll_declares` for the branches of one.
-/

set_option autoImplicit false
set_option relaxedAutoImplicit false

namespace Ontology

open Outcome

/-! ### Parameters of a condition -/

/-- The parameter that holds the user, unless it is the current one. -/
def UserReference.parameter? : UserReference → Option String
  | .currentUser => none
  | .parameter id => some id

/-- The parameter that one side of a comparison reads. -/
def Operand.parameter? : Operand → Option String
  | .parameter id => some id
  | .literal _ => none
  | .userProperty user _ => user.parameter?

namespace Condition

mutual

/-- The ids of the parameters that a condition reads. -/
def parameters : Condition → List String
  | .always => []
  | .comparison _ left right => left.parameter?.toList ++ right.parameter?.toList
  | .all conditions => parametersOfAll conditions
  | .any conditions => parametersOfAll conditions

/-- The ids of the parameters that several conditions read. -/
def parametersOfAll : List Condition → List String
  | [] => []
  | condition :: rest => parameters condition ++ parametersOfAll rest

end

theorem mem_parameters_comparison {operator : Operator} {left right : Operand} {id : String} :
    id ∈ (comparison operator left right).parameters ↔
      left.parameter? = some id ∨ right.parameter? = some id := by
  rw [parameters, List.mem_append, Option.mem_toList, Option.mem_toList]

end Condition

/-! ### Operands in scope -/

namespace Scope

variable {scope : Scope} {id : String} {type : ParameterType}

theorem conditionType_eq_ok_iff :
    scope.conditionType id = .ok type ↔ scope.type? id = some type := by
  unfold conditionType
  split <;> simp_all

theorem declares_of_conditionType (h : scope.conditionType id = .ok type) : scope.declares id :=
  declares_of_type? (conditionType_eq_ok_iff.mp h)

/-- A user that is accepted is held by a declared parameter, if by any. -/
theorem declares_of_checkUser {user : UserReference} (h : scope.checkUser user = .ok ())
    (hid : user.parameter? = some id) : scope.declares id := by
  cases user with
  | currentUser => cases hid
  | parameter held =>
    cases hid
    simp only [checkUser, bind_eq_ok_iff, pure_eq_ok_iff, and_true] at h
    obtain ⟨type, htype⟩ := h
    exact declares_of_conditionType htype

/-- A side of a comparison that has been typed reads a declared parameter, if any. -/
theorem declares_of_operandType {operand : Operand} {found : Option (String × ParameterType)}
    (h : scope.operandType operand = .ok found) (hid : operand.parameter? = some id) :
    scope.declares id := by
  cases operand with
  | literal value => cases hid
  | parameter named =>
    cases hid
    simp only [operandType, bind_eq_ok_iff] at h
    obtain ⟨type, htype, -⟩ := h
    exact declares_of_conditionType htype
  | userProperty user property =>
    simp only [operandType, bind_eq_ok_iff] at h
    obtain ⟨_, huser, -⟩ := h
    exact declares_of_checkUser huser hid

/-- The right side of a comparison reads a declared parameter, if any. -/
theorem declares_of_compileComparand {subject : String} {operator : Operator} {value : Comparand}
    {operand : Operand} (h : scope.compileComparand subject type operator value = .ok operand)
    (hid : operand.parameter? = some id) : scope.declares id := by
  cases value with
  | literal value =>
    simp only [compileComparand, bind_eq_ok_iff, pure_eq_ok_iff] at h
    obtain ⟨_, -, rfl⟩ := h
    cases hid
  | parameter named =>
    simp only [compileComparand, bind_eq_ok_iff, pure_eq_ok_iff] at h
    obtain ⟨namedType, htype, rfl⟩ := h
    cases hid
    exact declares_of_conditionType htype

end Scope

/-! ### Trees in scope -/

namespace ConditionDraft

variable {scope : Scope}

-- The recursion is that of `compile` and `compileAll`: each leaf has checked its own operands.
mutual

/-- A condition in canonical form reads declared parameters only. -/
theorem compile_declares : ∀ {draft : ConditionDraft} {condition : Condition},
    draft.compile scope = .ok condition → ∀ id ∈ condition.parameters, scope.declares id
  | .always, _, h, id, hid => by
    cases h
    simp [Condition.parameters] at hid
  | .memberOf group, _, h, id, hid => by
    cases h
    rcases Condition.mem_parameters_comparison.mp hid with hleft | hright
    · cases hleft
    · cases hright
  | .parameter named operator value, _, h, id, hid => by
    simp only [compile, bind_eq_ok_iff, pure_eq_ok_iff] at h
    obtain ⟨type, htype, right, hright, rfl⟩ := h
    rcases Condition.mem_parameters_comparison.mp hid with hleft | hfound
    · cases hleft
      exact Scope.declares_of_conditionType htype
    · exact Scope.declares_of_compileComparand hright hfound
  | .userProperty user property operator value, _, h, id, hid => by
    simp only [compile, bind_eq_ok_iff, pure_eq_ok_iff] at h
    obtain ⟨_, huser, right, hright, rfl⟩ := h
    rcases Condition.mem_parameters_comparison.mp hid with hleft | hfound
    · exact Scope.declares_of_checkUser huser hleft
    · exact Scope.declares_of_compileComparand hright hfound
  | .all conditions, _, h, id, hid => by
    simp only [compile, bind_eq_ok_iff, pure_eq_ok_iff] at h
    obtain ⟨branches, hbranches, rfl⟩ := h
    rw [Condition.parameters] at hid
    exact compileAll_declares hbranches id hid
  | .any conditions, _, h, id, hid => by
    simp only [compile, bind_eq_ok_iff, pure_eq_ok_iff] at h
    obtain ⟨branches, hbranches, rfl⟩ := h
    rw [Condition.parameters] at hid
    exact compileAll_declares hbranches id hid
  | .comparison operator left right, _, h, id, hid => by
    simp only [compile, Scope.checkComparison, bind_eq_ok_iff, pure_eq_ok_iff] at h
    obtain ⟨_, ⟨leftType, hleft, rightType, hright, -⟩, rfl⟩ := h
    rcases Condition.mem_parameters_comparison.mp hid with hfound | hfound
    · exact Scope.declares_of_operandType hleft hfound
    · exact Scope.declares_of_operandType hright hfound

/-- So do several conditions. -/
theorem compileAll_declares : ∀ {drafts : List ConditionDraft} {conditions : List Condition},
    compileAll scope drafts = .ok conditions →
      ∀ id ∈ Condition.parametersOfAll conditions, scope.declares id
  | [], _, h, id, hid => by
    cases h
    simp [Condition.parametersOfAll] at hid
  | draft :: rest, _, h, id, hid => by
    simp only [compileAll, bind_eq_ok_iff, pure_eq_ok_iff] at h
    obtain ⟨head, hhead, tail, htail, rfl⟩ := h
    rw [Condition.parametersOfAll, List.mem_append] at hid
    rcases hid with hid | hid
    · exact compile_declares hhead id hid
    · exact compileAll_declares htail id hid

end

end ConditionDraft

end Ontology
