/-!
Names of ontology entities. An `Identifier` is a qualified name: segments joined by dots, of which
the last is the local name. `Identifier.WellFormed` reads a text from left to right and says whether
every segment starts with a letter and goes on with letters, digits, underscores or hyphens.
`IsApiName` is the stricter rule for the names that live inside an entity: properties, parameters
and sections. `kebabCase` writes a local name in lower case with hyphens.

All character classes here are those of ASCII.
-/

set_option autoImplicit false
set_option relaxedAutoImplicit false

namespace Ontology

/-- The rules that a name can break. -/
inductive NamingRule where
  | qualifiedName
  | apiName
deriving DecidableEq

/-- What a rule asks for, in words. -/
def NamingRule.text : NamingRule → String
  | .qualifiedName =>
    "segments must start with a letter and contain only letters, digits, '_' or '-'"
  | .apiName =>
    "api names must start with a lowercase letter and contain only letters, digits or '_'"

/-- Why a name was refused. -/
inductive NameError where
  | invalidIdentifier (value : String) (rule : NamingRule)
  | invalidNamespace (value : String)
deriving DecidableEq

/-- The wording of a refusal. -/
def NameError.message : NameError → String
  | .invalidIdentifier value rule => s!"Invalid identifier '{value}': " ++ rule.text
  | .invalidNamespace value => s!"Invalid namespace '{value}': " ++ NamingRule.qualifiedName.text

/-! ### Characters and segments -/

/-- The characters that may follow the first letter of a segment. -/
def IsSegmentChar (c : Char) : Bool := c.isAlphanum || c == '_' || c == '-'

mutual

/-- Whether the text reads as segments joined by dots, starting with the first of a segment. -/
def OpensSegment : List Char → Bool
  | [] => false
  | c :: rest => c.isAlpha && ContinuesSegment rest

/-- Whether the text completes a segment that has begun, with further segments behind it. -/
def ContinuesSegment : List Char → Bool
  | [] => true
  | c :: rest => if c = '.' then OpensSegment rest else IsSegmentChar c && ContinuesSegment rest

end

/-- Whether a text is one or more segments joined by dots. -/
def IsQualifiedName (text : String) : Bool := OpensSegment text.toList

/-- Whether a text is a lower-case letter followed by letters, digits and underscores. -/
def IsApiName (text : String) : Bool :=
  match text.toList with
  | [] => false
  | first :: rest => first.isLower && rest.all fun c ↦ c.isAlphanum || c == '_'

/-- Accepts an api name and refuses any other text. -/
def checkApiName (name : String) : Except NameError Unit :=
  if IsApiName name then .ok () else .error (.invalidIdentifier name .apiName)

/-! ### Identifiers -/

/-- The qualified name of an entity. Imported entities may carry any text, so the naming rule is a
predicate and not part of the type. -/
structure Identifier where
  text : String
deriving DecidableEq

namespace Identifier

instance : ToString Identifier := ⟨Identifier.text⟩

instance : Inhabited Identifier := ⟨⟨""⟩⟩

/-- Whether an identifier keeps the naming rule. -/
def WellFormed (id : Identifier) : Bool := IsQualifiedName id.text

/-- Accepts a well-formed identifier and refuses any other. -/
def check (id : Identifier) : Except NameError Unit :=
  if id.WellFormed then .ok () else .error (.invalidIdentifier id.text .qualifiedName)

/-- Reads an identifier that keeps the naming rule. -/
def parse (text : String) : Except NameError Identifier := do
  check ⟨text⟩
  return ⟨text⟩

/-- What follows the last dot, or the whole text where there is none. -/
def localName (id : Identifier) : String :=
  String.ofList (id.text.toList.reverse.takeWhile (· ≠ '.')).reverse

/-- What stands before the last dot, if there is one. -/
def qualifier? (id : Identifier) : Option String :=
  match id.text.toList.reverse.dropWhile (· ≠ '.') with
  | [] => none
  | _ :: before => some (String.ofList before.reverse)

end Identifier

/-! ### Kebab case -/

/-- A character of a camel-case name after the first, in kebab case: a capital opens a new word. -/
def kebabTail (c : Char) : List Char :=
  if c.isUpper then ['-', c.toLower] else if c = '_' then ['-'] else [c]

/-- The first character of a camel-case name in kebab case: a capital opens no new word there. -/
def kebabHead (c : Char) : Char :=
  if c.isUpper then c.toLower else if c = '_' then '-' else c

/-- Lower-case words joined by hyphens, from a camel-case name. -/
def kebabCase (name : String) : String :=
  match name.toList with
  | [] => ""
  | first :: rest => String.ofList (kebabHead first :: rest.flatMap kebabTail)

end Ontology
