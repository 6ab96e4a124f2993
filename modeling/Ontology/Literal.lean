import Ontology.Decimal

/-!
Static values: defaults, operands of comparisons, and fixed property values. `Literal.display` is
the text of a value in messages. Two literals are compared by `==` as numbers are: a list with a
NaN in it differs from itself, and the two zeros agree.
-/

set_option autoImplicit false
set_option relaxedAutoImplicit false

namespace Ontology

/-- A statically known value. -/
inductive Literal where
  | null
  | boolean (value : Bool)
  | integer (value : Int64)
  | double (value : Float)
  | string (value : String)
  /-- A calendar date, as text. -/
  | date (value : String)
  /-- A point in time, as text. -/
  | timestamp (value : String)
  | list (items : List Literal)

namespace Literal

instance : Inhabited Literal := ⟨.null⟩

/-! ### Agreement -/

mutual

/-- Whether two literals have one shape and agreeing leaves. Doubles agree as numbers do. -/
def agrees : Literal → Literal → Bool
  | .null, .null => true
  | .boolean a, .boolean b => a == b
  | .integer a, .integer b => a == b
  | .double a, .double b => a == b
  | .string a, .string b => a == b
  | .date a, .date b => a == b
  | .timestamp a, .timestamp b => a == b
  | .list a, .list b => agreesAll a b
  | _, _ => false

/-- Whether two lists of literals agree item by item. -/
def agreesAll : List Literal → List Literal → Bool
  | [], [] => true
  | a :: as, b :: bs => agrees a b && agreesAll as bs
  | _, _ => false

end

instance : BEq Literal := ⟨agrees⟩

/-! ### Views -/

/-- Whether the value is missing. -/
def isNull : Literal → Bool
  | .null => true
  | _ => false

/-- Whether the value is a list. -/
def isList : Literal → Bool
  | .list _ => true
  | _ => false

/-- The truth value, if it is one. -/
def boolean? : Literal → Option Bool
  | .boolean value => some value
  | _ => none

/-- The integer, if it is one. -/
def integer? : Literal → Option Int64
  | .integer value => some value
  | _ => none

/-- The number as a double; an integer goes to the closest one. -/
def double? : Literal → Option Float
  | .double value => some value
  | .integer value => some value.toFloat
  | _ => none

/-- The text of a string value, if it is one. -/
def string? : Literal → Option String
  | .string value => some value
  | _ => none

/-- The items, if the value is a list. -/
def items? : Literal → Option (List Literal)
  | .list items => some items
  | _ => none

/-- The name of the kind of value. -/
def typeName : Literal → String
  | .null => "null"
  | .boolean _ => "boolean"
  | .integer _ => "integer"
  | .double _ => "double"
  | .string _ => "string"
  | .date _ => "date"
  | .timestamp _ => "timestamp"
  | .list _ => "list"

end Literal

/-! ### Text -/

/-- The bits of a double without its sign. -/
def magnitudeBits (value : Float) : Nat := value.toBits.toNat % (1 <<< 63)

/-- A double with the fewest digits that read back, never with an exponent and without a point
where it is whole; ties between two such texts go away from zero, and the sign of zero is kept. -/
def displayDouble (value : Float) : String :=
  let sign := if 1 <<< 63 ≤ value.toBits.toNat then "-" else ""
  if value.isNaN then "NaN"
  else if value.isInf then sign ++ "inf"
  else if magnitudeBits value = 0 then sign ++ "0"
  else sign ++ (Decimal.shortest .awayFromZero (magnitudeBits value)).positional ""

namespace Literal

mutual

/-- The text of a literal in messages. -/
def display : Literal → String
  | .null => "null"
  | .boolean value => if value then "true" else "false"
  | .integer value => toString value.toInt
  | .double value => displayDouble value
  | .string value => "\"" ++ value ++ "\""
  | .date value => "date:" ++ value
  | .timestamp value => "ts:" ++ value
  | .list items => "[" ++ ", ".intercalate (displays items) ++ "]"

/-- The texts of several literals. -/
def displays : List Literal → List String
  | [] => []
  | item :: rest => display item :: displays rest

end

instance : ToString Literal := ⟨display⟩

end Literal

end Ontology
