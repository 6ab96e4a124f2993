import Ontology.Condition

/-!
The form of an action: sections that group parameters, when a section shows, and the order in which
sections and free parameters appear. `formContent` derives that order from the order of the
parameters.
-/

set_option autoImplicit false
set_option relaxedAutoImplicit false

namespace Ontology

/-- Whether a section shows. -/
inductive SectionVisibility where
  | visible
  | hidden
deriving DecidableEq

/-- Parameters that are shown together. -/
structure FormSection where
  id : String
  displayName : String
  description : Option String
  collapsedByDefault : Bool
  parameters : List String
deriving DecidableEq

/-- A visibility that applies while a condition holds. -/
structure SectionOverride where
  condition : Condition
  visibility : SectionVisibility
deriving BEq

/-- When a section shows. -/
structure SectionValidation where
  sectionId : String
  defaultVisibility : SectionVisibility
  overrides : List SectionOverride
deriving BEq

/-- An entry of the form. -/
inductive FormItem where
  | parameter (id : String)
  | section (id : String)
deriving DecidableEq

/-! ### The order of the form -/

/-- The section that holds a parameter; of several, the one listed last. -/
def sectionOf? (sections : List FormSection) (parameter : String) : Option String :=
  (sections.reverse.find? (parameter ∈ ·.parameters)).map (·.id)

/-- The entries for parameters in order, where the sections that have been `placed` stand further
up already: a parameter inside a section brings its section with it the first time, and nothing
after that. -/
def placeParameters (sections : List FormSection) : List String → List String → List FormItem
  | _, [] => []
  | placed, parameter :: rest =>
    match sectionOf? sections parameter with
    | none => .parameter parameter :: placeParameters sections placed rest
    | some id =>
      if id ∈ placed then placeParameters sections placed rest
      else .section id :: placeParameters sections (id :: placed) rest

/-- The entries of a form: the parameters in order, with a section in place of the first of its
parameters, and at the end the sections that no parameter brought, as declared. -/
def formContent (sections : List FormSection) (ordering : List String) : List FormItem :=
  let items := placeParameters sections [] ordering
  items ++ (sections.map (FormItem.section ·.id)).filter (· ∉ items)

end Ontology
