import Ontology.Json

/-!
Reading JSON text. `Json.parse` accepts one value with blanks around it. A number without point and
exponent is an integer, any other is the double closest to it; a zero with a minus sign is the
double of that sign. The recursion is bounded by the length of the text, of which every nested
value takes at least one character.
-/

set_option autoImplicit false
set_option relaxedAutoImplicit false

namespace Ontology.Json

/-- The text behind its leading blanks. -/
def skipBlanks (text : List Char) : List Char :=
  text.dropWhile fun c ↦ c = ' ' ∨ c = '\n' ∨ c = '\r' ∨ c = '\t'

/-! ### Strings -/

/-- The value of a hexadecimal digit. -/
def hexValue? (c : Char) : Option Nat :=
  if '0' ≤ c ∧ c ≤ '9' then some (c.toNat - '0'.toNat)
  else if 'a' ≤ c ∧ c ≤ 'f' then some (c.toNat - 'a'.toNat + 10)
  else if 'A' ≤ c ∧ c ≤ 'F' then some (c.toNat - 'A'.toNat + 10)
  else none

/-- The value of four hexadecimal digits. -/
def codeUnit? (a b c d : Char) : Option Nat :=
  return (((← hexValue? a) * 16 + (← hexValue? b)) * 16 + (← hexValue? c)) * 16 + (← hexValue? d)

/-- The character that a letter behind a backslash stands for. -/
def unescape? (c : Char) : Option Char :=
  match c with
  | '"' | '\\' | '/' => some c
  | 'b' => some '\x08'
  | 'f' => some '\x0c'
  | 'n' => some '\n'
  | 'r' => some '\r'
  | 't' => some '\t'
  | _ => none

/-- The rest of a string up to its closing quote, given the characters read so far in reverse, and
what follows the string. `high` is the first half of a pair of code units that is to be completed by
the next. -/
def parseString (high : Option Nat) (done : List Char) : List Char → Option (String × List Char)
  | [] => none
  | '"' :: rest => if high.isNone then some (String.ofList done.reverse, rest) else none
  | '\\' :: 'u' :: a :: b :: c :: d :: rest =>
    match high, codeUnit? a b c d with
    | _, none => none
    | none, some unit =>
      if 0xD800 ≤ unit ∧ unit < 0xDC00 then parseString (some unit) done rest
      else if 0xDC00 ≤ unit ∧ unit < 0xE000 then none
      else parseString none (Char.ofNat unit :: done) rest
    | some first, some second =>
      if 0xDC00 ≤ second ∧ second < 0xE000 then
        let code := 0x10000 + (first - 0xD800) * 0x400 + (second - 0xDC00)
        parseString none (Char.ofNat code :: done) rest
      else none
  | '\\' :: c :: rest =>
    match high, unescape? c with
    | none, some plain => parseString none (plain :: done) rest
    | _, _ => none
  | c :: rest => if high.isNone then parseString none (c :: done) rest else none

/-! ### Numbers -/

/-- The characters of a number. -/
def isNumberChar (c : Char) : Bool :=
  c.isDigit || c == '-' || c == '+' || c == '.' || c == 'e' || c == 'E'

/-- The number that decimal digits stand for. -/
def digitsValue (digits : List Char) : Nat :=
  digits.foldl (fun value c ↦ value * 10 + (c.toNat - '0'.toNat)) 0

/-- The number that decimal digits stand for, if there are any and nothing else. -/
def naturalOf? (digits : List Char) : Option Nat :=
  if digits ≠ [] ∧ digits.all Char.isDigit then some (digitsValue digits) else none

/-- The power of ten behind the digits of a number. -/
def exponentOf? : List Char → Option Int
  | [] => some 0
  | mark :: '-' :: digits =>
    if mark = 'e' ∨ mark = 'E' then (naturalOf? digits).map fun value ↦ -(value : Int) else none
  | mark :: '+' :: digits =>
    if mark = 'e' ∨ mark = 'E' then (naturalOf? digits).map fun value ↦ (value : Int) else none
  | mark :: digits =>
    if mark = 'e' ∨ mark = 'E' then (naturalOf? digits).map fun value ↦ (value : Int) else none

/-- The double closest to `digits * 10 ^ exponent`, with a sign. -/
def closestDouble (negative : Bool) (digits : Nat) (exponent : Int) : Float :=
  let magnitude := Float.ofScientific digits (decide (exponent < 0)) exponent.natAbs
  if negative then -magnitude else magnitude

/-- The number of a text without its sign. -/
def unsignedNumber? (negative : Bool) (text : List Char) : Option Json :=
  let whole := text.takeWhile Char.isDigit
  match whole, text.dropWhile Char.isDigit with
  | [], _ => none
  | _ :: _, [] =>
    let value := digitsValue whole
    if negative then
      some (if value = 0 then .number (closestDouble true 0 0) else .integer (-(value : Int)))
    else some (.integer value)
  | _ :: _, '.' :: rest =>
    let fraction := rest.takeWhile Char.isDigit
    if fraction.isEmpty then none
    else (exponentOf? (rest.dropWhile Char.isDigit)).map fun exponent ↦
      .number (closestDouble negative (digitsValue (whole ++ fraction))
        (exponent - fraction.length))
  | _ :: _, rest => (exponentOf? rest).map fun exponent ↦
    .number (closestDouble negative (digitsValue whole) exponent)

/-- The number that a text stands for. -/
def numberOf? : List Char → Option Json
  | '-' :: text => unsignedNumber? true text
  | text => unsignedNumber? false text

/-! ### Values -/

mutual

/-- The value at the front of a text and what follows it. -/
def parseValue : Nat → List Char → Option (Json × List Char)
  | 0, _ => none
  | fuel + 1, text =>
    match skipBlanks text with
    | '"' :: rest => (parseString none [] rest).map fun (value, rest) ↦ (.string value, rest)
    | '[' :: rest =>
      match skipBlanks rest with
      | ']' :: rest => some (.array [], rest)
      | rest => parseItems fuel [] rest
    | '\x7b' :: rest =>
      match skipBlanks rest with
      | '\x7d' :: rest => some (.object [], rest)
      | rest => parseFields fuel [] rest
    | 't' :: 'r' :: 'u' :: 'e' :: rest => some (.boolean true, rest)
    | 'f' :: 'a' :: 'l' :: 's' :: 'e' :: rest => some (.boolean false, rest)
    | 'n' :: 'u' :: 'l' :: 'l' :: rest => some (.null, rest)
    | text =>
      (numberOf? (text.takeWhile isNumberChar)).map fun number ↦
        (number, text.dropWhile isNumberChar)

/-- The rest of an array, given its items so far in reverse. -/
def parseItems : Nat → List Json → List Char → Option (Json × List Char)
  | 0, _, _ => none
  | fuel + 1, done, text => do
    let (item, rest) ← parseValue fuel text
    match skipBlanks rest with
    | ',' :: rest => parseItems fuel (item :: done) rest
    | ']' :: rest => some (.array (item :: done).reverse, rest)
    | _ => none

/-- The rest of an object, given its fields so far in reverse. -/
def parseFields : Nat → List (String × Json) → List Char → Option (Json × List Char)
  | 0, _, _ => none
  | fuel + 1, done, text =>
    match skipBlanks text with
    | '"' :: rest => do
      let (name, rest) ← parseString none [] rest
      match skipBlanks rest with
      | ':' :: rest =>
        let (value, rest) ← parseValue fuel rest
        match skipBlanks rest with
        | ',' :: rest => parseFields fuel ((name, value) :: done) rest
        | '\x7d' :: rest => some (.object ((name, value) :: done).reverse, rest)
        | _ => none
      | _ => none
    | _ => none

end

/-- The value of a whole text. -/
def parse (text : String) : Option Json :=
  let chars := text.toList
  match parseValue (2 * chars.length + 1) chars with
  | some (value, rest) => if (skipBlanks rest).isEmpty then some value else none
  | none => none

end Ontology.Json
