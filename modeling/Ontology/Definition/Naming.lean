import Ontology.Namespace
import Ontology.SchemaError

/-!
The naming policy of a session: the namespace that qualifies its names, and whether the naming
rules are enforced.
-/

set_option autoImplicit false
set_option relaxedAutoImplicit false

namespace Ontology

/-- How a session forms and checks names. -/
structure NamingPolicy where
  space : Namespace
  /-- Whether names that break the naming rules are refused. -/
  strict : Bool
deriving DecidableEq

namespace NamingPolicy

/-- The identifier of a name. -/
def id (policy : NamingPolicy) (name : Name) : Identifier := policy.space.qualify name

/-- Accepts the identifiers that the policy admits. -/
def checkIds (policy : NamingPolicy) (ids : List Identifier) : Except NameError Unit :=
  if policy.strict then ids.forM Identifier.check else .ok ()

/-- Accepts the api names that the policy admits. -/
def checkApiNames (policy : NamingPolicy) (names : List String) : Except NameError Unit :=
  if policy.strict then names.forM checkApiName else .ok ()

end NamingPolicy

/-- Reports a refused name as an error in a definition. -/
def SchemaError.ofNaming {α : Type} (result : Except NameError α) : Except SchemaError α :=
  result.mapError .naming

/-- The first item of a list that occurs earlier in it, if the items are not distinct. -/
def firstRepeated? {α : Type} [DecidableEq α] (earlier : List α) : List α → Option α
  | [] => none
  | item :: rest =>
    if item ∈ earlier then some item else firstRepeated? (item :: earlier) rest

end Ontology
