import Ontology.Scenario.Printable

/-!
Texts in quotes, as they stand in messages. Quotes and backslashes inside are escaped, line breaks
and tabulators have short names, and every other character that does not show by itself is written
by its number in hexadecimal digits.
-/

set_option autoImplicit false
set_option relaxedAutoImplicit false

namespace Ontology

/-- A character inside a quoted text. -/
def quoteChar (c : Char) : List Char :=
  if c = '"' then ['\\', '"']
  else if c = '\\' then ['\\', '\\']
  else if c = '\n' then ['\\', 'n']
  else if c = '\r' then ['\\', 'r']
  else if c = '\t' then ['\\', 't']
  else if c.toNat = 0 then ['\\', '0']
  else if IsPrintable c then [c]
  else ['\\', 'u', '\x7b'] ++ Nat.toDigits 16 c.toNat ++ ['\x7d']

/-- A text in double quotes. -/
def quoteText (text : String) : String :=
  "\"" ++ String.ofList (text.toList.flatMap quoteChar) ++ "\""

/-- A list of texts in double quotes. -/
def quoteTexts (texts : List String) : String :=
  "[" ++ ", ".intercalate (texts.map quoteText) ++ "]"

end Ontology
