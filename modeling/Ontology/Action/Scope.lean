import Ontology.Action.Error

/-!
The parameters that are in scope inside an action. A `Scope` lists ids with their types; of several
entries for one id the last counts. Also here: the checks on lists of ids, that they are declared,
distinct, or an arrangement of the expected ones.
-/

set_option autoImplicit false
set_option relaxedAutoImplicit false

namespace Ontology

/-- The declared parameters of an action and their types. -/
structure Scope where
  declarations : List (String × ParameterType)

namespace Scope

/-- The type of a parameter, by its last declaration. -/
def type? (scope : Scope) (id : String) : Option ParameterType :=
  (scope.declarations.reverse.find? (·.1 = id)).map (·.2)

/-- Whether a parameter is declared. -/
def declares (scope : Scope) (id : String) : Bool := (scope.type? id).isSome

/-- The type of the parameter that plays a role. -/
def require (scope : Scope) (id : String) (role : TargetRole) :
    Except ActionError ParameterType :=
  match scope.type? id with
  | none => .error (.missingTargetParameter role)
  | some type => .ok type

end Scope

/-! ### Checks on lists of ids -/

/-- The ids that are referenced without being declared, each once, in the order of mention. -/
def undeclared (declared : String → Bool) (referenced : List String) : List String :=
  (referenced.filter fun id ↦ !declared id).eraseDups

/-- Accepts references to declared parameters and reports all the others at once. -/
def checkDeclared (declared : String → Bool) (referenced : List String) :
    Except ActionError Unit :=
  match undeclared declared referenced with
  | [] => .ok ()
  | ids@(_ :: _) => .error (.undefinedParameters ids)

/-- Accepts distinct ids and reports the first that occurs again. -/
def checkDistinct (earlier : List String) : List String → Except ActionError Unit
  | [] => .ok ()
  | id :: rest =>
    if id ∈ earlier then .error (.duplicateParameter id) else checkDistinct (id :: earlier) rest

/-- The entries of an ordering that are not expected or repeat an earlier entry. -/
def extraneousEntries (expected : List String) : (earlier ordering : List String) → List String
  | _, [] => []
  | earlier, id :: rest =>
    if id ∉ expected ∨ id ∈ earlier then id :: extraneousEntries expected earlier rest
    else extraneousEntries expected (id :: earlier) rest

/-- The expected ids that an ordering leaves out. -/
def missingEntries (expected ordering : List String) : List String :=
  expected.filter (· ∉ ordering)

/-- Accepts an ordering that lists the expected ids, each once. -/
def checkOrdering (action : Identifier) (expected ordering : List String) :
    Except ActionError Unit :=
  match extraneousEntries expected [] ordering, missingEntries expected ordering with
  | [], [] => .ok ()
  | extraneous, missing => .error (.orderingMismatch action extraneous missing)

/-- The ordering that applies: the one that is asked for, if it arranges the expected ids, and else
that of the declarations. -/
def resolveOrdering (action : Identifier) (expected : List String) :
    Option (List String) → Except ActionError (List String)
  | none => .ok expected
  | some ordering => do
    checkOrdering action expected ordering
    return ordering

end Ontology
