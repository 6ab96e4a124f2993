import Ontology.Literal
import Ontology.ParameterType

/-!
Conditions in canonical form: comparisons of parameters, user properties and literals, joined by
conjunction and disjunction of any depth.
-/

set_option autoImplicit false
set_option relaxedAutoImplicit false

namespace Ontology

/-- The comparisons that a condition can make. -/
inductive Operator where
  | equals
  | notEquals
  | lessThan
  | lessThanOrEquals
  | greaterThan
  | greaterThanOrEquals
  | intersects
  | includes
  | isIncludedIn
  | matchesPattern
  | startsWith
deriving DecidableEq

/-- Whether a comparison needs an order on the values. -/
def Operator.isOrdering : Operator → Bool
  | .lessThan | .lessThanOrEquals | .greaterThan | .greaterThanOrEquals => true
  | _ => false

/-- The user that a condition looks at. -/
inductive UserReference where
  | currentUser
  /-- The user that a parameter holds. -/
  | parameter (id : String)
deriving DecidableEq

/-- A property of a user. -/
inductive UserProperty where
  | userId
  | username
  | email
  | organization
  | groupIds
  | attribute (name : String)
deriving DecidableEq

namespace UserProperty

/-- The type of a user property: the groups are a list of texts, all else is a text. -/
def type : UserProperty → ParameterType
  | .groupIds => .list .string
  | _ => .string

/-- The text of a user property in messages. -/
def label : UserProperty → String
  | .userId => "user id"
  | .username => "username"
  | .email => "email"
  | .organization => "organization"
  | .groupIds => "group ids"
  | .attribute name => "user attribute " ++ name

end UserProperty

/-- One side of a comparison. -/
inductive Operand where
  | parameter (id : String)
  | literal (value : Literal)
  | userProperty (user : UserReference) (property : UserProperty)
deriving BEq

/-- A condition in canonical form. -/
inductive Condition where
  | always
  | comparison (operator : Operator) (left right : Operand)
  | all (conditions : List Condition)
  | any (conditions : List Condition)

namespace Condition

instance : Inhabited Condition := ⟨.always⟩

mutual

/-- Whether two conditions have one shape and agreeing leaves. -/
def agrees : Condition → Condition → Bool
  | .always, .always => true
  | .comparison o l r, .comparison o' l' r' => o == o' && l == l' && r == r'
  | .all a, .all b => agreesAll a b
  | .any a, .any b => agreesAll a b
  | _, _ => false

/-- Whether two lists of conditions agree item by item. -/
def agreesAll : List Condition → List Condition → Bool
  | [], [] => true
  | a :: as, b :: bs => agrees a b && agreesAll as bs
  | _, _ => false

end

instance : BEq Condition := ⟨agrees⟩

/-- The current user belongs to a group. -/
def memberOf (group : String) : Condition :=
  .comparison .intersects (.userProperty .currentUser .groupIds) (.literal (.list [.string group]))

end Condition

end Ontology
