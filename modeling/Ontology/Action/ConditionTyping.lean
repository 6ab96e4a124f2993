import Ontology.Action.Draft
import Ontology.Action.Scope
import Ontology.LiteralTyping

/-!
From drafted to canonical conditions. Every parameter that a condition names must be in scope, and
a literal must have the type that the operator asks of it, given what it is compared with: for
`includes` the type of an item, for `isIncludedIn` a list, for the two operators on texts a text,
and else the same type. The tree keeps its shape; the first fault from the left is reported.
-/

set_option autoImplicit false
set_option relaxedAutoImplicit false

namespace Ontology

/-! ### Literals in comparisons -/

/-- The type of a literal that is compared with a subject of the given type. -/
def Operator.literalType (operator : Operator) (subject : ParameterType) : ParameterType :=
  match operator with
  | .includes => subject.itemType
  | .isIncludedIn => .list subject
  | .matchesPattern | .startsWith => .string
  | .equals | .notEquals | .lessThan | .lessThanOrEquals | .greaterThan | .greaterThanOrEquals
  | .intersects => subject

/-- Accepts a literal of the type that a comparison asks for. -/
def checkComparedLiteral (subject : String) (type : ParameterType) (operator : Operator)
    (value : Literal) : Except ActionError Unit :=
  let expected := operator.literalType type
  if expected.admits value then .ok ()
  else .error (.conditionValueMismatch subject expected value)

/-! ### Parameters and users in scope -/

namespace Scope

/-- The type of a parameter that a condition names. -/
def conditionType (scope : Scope) (id : String) : Except ActionError ParameterType :=
  match scope.type? id with
  | none => .error (.unknownConditionParameter id)
  | some type => .ok type

/-- Accepts the current user, and the user that a declared parameter holds. -/
def checkUser (scope : Scope) : UserReference → Except ActionError Unit
  | .currentUser => .ok ()
  | .parameter id => do
    let _ ← scope.conditionType id

/-- The label and the type of one side of a comparison, unless it is a literal. -/
def operandType (scope : Scope) : Operand → Except ActionError (Option (String × ParameterType))
  | .parameter id => return some (id, ← scope.conditionType id)
  | .literal _ => .ok none
  | .userProperty user property => do
    scope.checkUser user
    return some (property.label, property.type)

/-- The right side of a comparison with a subject of the given type. -/
def compileComparand (scope : Scope) (subject : String) (type : ParameterType)
    (operator : Operator) : Comparand → Except ActionError Operand
  | .parameter id => do
    let _ ← scope.conditionType id
    return .parameter id
  | .literal value => do
    checkComparedLiteral subject type operator value
    return .literal value

/-- Accepts a comparison between canonical operands: a literal is checked against the other side,
and two literals or two typed sides go together as they are. -/
def checkComparison (scope : Scope) (operator : Operator) (left right : Operand) :
    Except ActionError Unit := do
  let leftType ← scope.operandType left
  let rightType ← scope.operandType right
  match leftType, rightType, left, right with
  | some (subject, type), none, _, .literal value =>
    checkComparedLiteral subject type operator value
  | none, some (subject, type), .literal value, _ =>
    checkComparedLiteral subject type operator value
  | _, _, _, _ => return

end Scope

/-! ### Trees -/

namespace ConditionDraft

mutual

/-- The canonical form of a condition over the parameters in scope. -/
def compile (scope : Scope) : ConditionDraft → Except ActionError Condition
  | .always => .ok .always
  | .memberOf group => .ok (.memberOf group)
  | .parameter id operator value => do
    let type ← scope.conditionType id
    return .comparison operator (.parameter id) (← scope.compileComparand id type operator value)
  | .userProperty user property operator value => do
    scope.checkUser user
    return .comparison operator (.userProperty user property)
      (← scope.compileComparand property.label property.type operator value)
  | .all conditions => return .all (← compileAll scope conditions)
  | .any conditions => return .any (← compileAll scope conditions)
  | .comparison operator left right => do
    scope.checkComparison operator left right
    return .comparison operator left right

/-- The canonical forms of several conditions. -/
def compileAll (scope : Scope) : List ConditionDraft → Except ActionError (List Condition)
  | [] => .ok []
  | condition :: rest => return (← compile scope condition) :: (← compileAll scope rest)

end

end ConditionDraft

end Ontology
