import Ontology.Literal
import Ontology.ParameterType

/-!
Which literals a parameter type admits. Dates and timestamps are recognised by their outline:
`matchOutline` reads the digits and fixed characters of an outline off the front of a text. A null
is admitted nowhere, and an empty list wherever lists are.
-/

set_option autoImplicit false
set_option relaxedAutoImplicit false

namespace Ontology

/-- What is left of a text behind an outline, in which `d` stands for a digit and every other
character for itself. -/
def matchOutline : List Char → List Char → Option (List Char)
  | [], rest => some rest
  | _ :: _, [] => none
  | mark :: outline, c :: rest =>
    if (if mark = 'd' then c.isDigit else c == mark) then matchOutline outline rest else none

/-- Whether a text has the outline of a calendar date. -/
def IsDateText (text : String) : Bool :=
  matchOutline "dddd-dd-dd".toList text.toList == some []

/-- Whether a text starts with the outline of a calendar date and a `T`. -/
def IsTimestampText (text : String) : Bool :=
  (matchOutline "dddd-dd-ddT".toList text.toList).isSome

/-- Whether an integer fits into 32 bits with its sign. -/
def FitsInt32 (value : Int64) : Bool :=
  Int32.minValue.toInt ≤ value.toInt && value.toInt ≤ Int32.maxValue.toInt

/-- Whether a literal is a value of a type. -/
def ParameterType.admits : ParameterType → Literal → Bool
  | .boolean, .boolean _ => true
  | .integer, .integer value => FitsInt32 value
  | .long, .integer _ => true
  | .double, .double _ | .double, .integer _ => true
  | .decimal, .double _ | .decimal, .integer _ => true
  | .string, .string _ | .user, .string _ | .group, .string _ | .geohash, .string _ => true
  | .date, .date text => IsDateText text
  | .timestamp, .timestamp text => IsTimestampText text
  | .list item, .list values => values.all fun value ↦ item.admits value
  | _, _ => false

end Ontology
