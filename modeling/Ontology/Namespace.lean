import Ontology.Identifier

/-!
Qualification of names. A `Namespace` holds a qualifier that ends in a dot, or nothing;
`Namespace.ofText` completes a missing final dot and refuses segments that break the naming rule.
`Namespace.qualify` turns every `Name` into one identifier: an automatic name gets the qualifier in
front unless it has a dot already, a raw name is taken as it stands.
-/

set_option autoImplicit false
set_option relaxedAutoImplicit false

namespace Ontology

/-- The name of an entity as its author writes it. -/
inductive Name where
  /-- A name that the namespace qualifies unless it is dotted. -/
  | auto (text : String)
  /-- A name that is used as it stands. -/
  | raw (text : String)
deriving DecidableEq

/-- The text of a name, without qualification. -/
def Name.text : Name → String
  | .auto text => text
  | .raw text => text

/-- The qualifier that a session puts in front of undotted names: empty, or ending in a dot. -/
structure Namespace where
  qualifier : String
deriving DecidableEq

namespace Namespace

/-- The namespace that adds nothing. -/
def empty : Namespace := ⟨""⟩

/-- Whether the namespace adds nothing. -/
def isEmpty (space : Namespace) : Bool := space.qualifier.isEmpty

/-- The characters of a qualifier with its final dot in place. -/
def withFinalDot (chars : List Char) : List Char :=
  if chars.getLast? = some '.' then chars else chars ++ ['.']

/-- Reads a qualifier, with or without its final dot. -/
def ofText (text : String) : Except NameError Namespace :=
  match text.toList with
  | [] => .ok empty
  | chars@(_ :: _) =>
    let dotted := withFinalDot chars
    if OpensSegment dotted.dropLast then .ok ⟨String.ofList dotted⟩
    else .error (.invalidNamespace (String.ofList dotted))

/-- The identifier of a name in this namespace. -/
def qualify (space : Namespace) : Name → Identifier
  | .raw text => ⟨text⟩
  | .auto text => if '.' ∈ text.toList then ⟨text⟩ else ⟨space.qualifier ++ text⟩

end Namespace

end Ontology
