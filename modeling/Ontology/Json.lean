import Ontology.Literal

/-!
JSON documents as trees with ordered fields, and their text. `Json.pretty` indents by two blanks,
puts each item and field on a line of its own, and writes empty arrays and objects on one line.
-/

set_option autoImplicit false
set_option relaxedAutoImplicit false

namespace Ontology

/-- A JSON value. The fields of an object keep their order. -/
inductive Json where
  | null
  | boolean (value : Bool)
  | integer (value : Int)
  /-- A finite double. -/
  | number (value : Float)
  | string (value : String)
  | array (items : List Json)
  | object (fields : List (String × Json))

namespace Json

instance : Inhabited Json := ⟨.null⟩

/-! ### Building -/

/-- A string list as an array. -/
def strings (items : List String) : Json := .array (items.map .string)

/-- An optional value, null where it is missing. -/
def ofOption {α : Type} (encode : α → Json) : Option α → Json
  | none => .null
  | some value => encode value

/-- The field of an optional value, or no field where it is missing. -/
def optionalField {α : Type} (name : String) (encode : α → Json) : Option α → List (String × Json)
  | none => []
  | some value => [(name, encode value)]

/-- An object that says by its `type` field which case of a choice it is. -/
def tagged (tag : String) (fields : List (String × Json)) : Json :=
  .object (("type", .string tag) :: fields)

/-! ### Text -/

/-- A hexadecimal digit in lower case. -/
def hexDigit (value : Nat) : Char := Nat.digitChar (value % 16)

/-- A character inside a JSON string: quotes, backslashes and control characters are escaped. -/
def escape (c : Char) : List Char :=
  if c = '"' then ['\\', '"']
  else if c = '\\' then ['\\', '\\']
  else if c = '\x08' then ['\\', 'b']
  else if c = '\x0c' then ['\\', 'f']
  else if c = '\n' then ['\\', 'n']
  else if c = '\r' then ['\\', 'r']
  else if c = '\t' then ['\\', 't']
  else if c.toNat < 32 then ['\\', 'u', '0', '0', hexDigit (c.toNat / 16), hexDigit c.toNat]
  else [c]

/-- A JSON string. -/
def quoted (text : String) : String :=
  "\"" ++ String.ofList (text.toList.flatMap escape) ++ "\""

/-- A finite double with the fewest digits that read back; ties between two such texts go to the
even digit. The leading digit's power of ten decides the layout: from -5 to 15 it is positional,
with a zero behind the point of a whole number, beyond that it has an exponent with its sign. -/
def numberText (value : Float) : String :=
  let sign := if 1 <<< 63 ≤ value.toBits.toNat then "-" else ""
  if magnitudeBits value = 0 then sign ++ "0.0"
  else
    let decimal := Decimal.shortest .toEven (magnitudeBits value)
    if -5 ≤ decimal.order ∧ decimal.order ≤ 15 then sign ++ decimal.positional ".0"
    else sign ++ decimal.scientific

/-- A line break and the indentation of a level. -/
def lineBreak (level : Nat) : String := "\n" ++ String.ofList (List.replicate (2 * level) ' ')

mutual

/-- The text of a value that starts on a line of the given level. -/
def render (level : Nat) : Json → String
  | .null => "null"
  | .boolean value => if value then "true" else "false"
  | .integer value => toString value
  | .number value => numberText value
  | .string value => quoted value
  | .array [] => "[]"
  | .array (item :: rest) =>
    "[" ++ lineBreak (level + 1) ++ render (level + 1) item ++ renderItems (level + 1) rest ++
      lineBreak level ++ "]"
  | .object [] => "\x7b\x7d"
  | .object ((name, value) :: rest) =>
    "\x7b" ++ lineBreak (level + 1) ++ quoted name ++ ": " ++ render (level + 1) value ++
      renderFields (level + 1) rest ++ lineBreak level ++ "\x7d"

/-- The items of an array behind its first. -/
def renderItems (level : Nat) : List Json → String
  | [] => ""
  | item :: rest => "," ++ lineBreak level ++ render level item ++ renderItems level rest

/-- The fields of an object behind its first. -/
def renderFields (level : Nat) : List (String × Json) → String
  | [] => ""
  | (name, value) :: rest =>
    "," ++ lineBreak level ++ quoted name ++ ": " ++ render level value ++ renderFields level rest

end

/-- The indented text of a document. -/
def pretty (document : Json) : String := document.render 0

end Json

end Ontology
