import Ontology.Condition

/-!
The parameters of an action and what a form accepts for them. A `ValidationBlock` holds the
settings of a parameter; a `ParameterValidation` is the default block with the effects that apply
while a condition holds. `ParameterType.defaultBlock` gives the settings that follow from the type
alone, and `ParameterType.requirement` says how requiredness is written: as a flag, or for a list
as bounds on its length.
-/

set_option autoImplicit false
set_option relaxedAutoImplicit false

namespace Ontology

/-- The form control of a parameter. -/
inductive RenderHint where
  | dropdown
  | radioButtons
  | checkbox
  | textInput
  | textArea
  | numericInput
  | dateTimePicker
  | filePicker
  | mandatoryMarkingPicker
  | mediaUploader
  | geohashInput
  | geoshapeInput
  | userDropdown
  | groupDropdown
deriving DecidableEq

/-- How far a parameter shows in the form. -/
inductive Visibility where
  | editable
  | readOnly
  | hidden
deriving DecidableEq

/-- The values that a parameter accepts. -/
inductive AllowedValues where
  | boolean
  | text (minLength maxLength : Option Nat)
  | range (min max : Option Literal)
  | datetime (min max : Option Literal)
  | geohash
  | geoshape
  | attachment
  | marking
  | mediaReference
  | geotimeSeriesReference
  | struct (fields : List String)
  | objectQuery (objectType : Identifier)
  | interfaceObjectQuery (interfaceType : Identifier)
  | objectTypeReference (interfaceTypes : List Identifier)
  | objectSet (objectType : Identifier)
  | user
  | group
  | oneOf (values : List Literal)
deriving BEq

/-- Whether a value must be given: a flag, or bounds on the length of a list. -/
inductive Requirement where
  | flag (required : Bool)
  | listLength (min max : Option Nat)
deriving DecidableEq

/-- Whether an empty value is refused. -/
def Requirement.isRequired : Requirement → Bool
  | .flag required => required
  | .listLength min _ => min.any (0 < ·)

/-- The value that a form starts with. -/
inductive Prefill where
  | literal (value : Literal)
  /-- A property of the object that another parameter holds. -/
  | objectProperty (parameter property : String)
  | currentUser
  | currentTime
deriving BEq

/-- The settings of a parameter. -/
structure ValidationBlock where
  renderHint : RenderHint
  visibility : Visibility
  allowedValues : AllowedValues
  requirement : Requirement
  prefilled : Option Prefill
deriving BEq

/-- A change to one setting of a parameter. -/
inductive Effect where
  | visibility (visibility : Visibility)
  | requirement (requirement : Requirement)
  | prefilled (value : Prefill)
  | allowedValues (allowed : AllowedValues)
deriving BEq

/-- Changes that apply while a condition holds. -/
structure ConditionalEffects where
  condition : Condition
  effects : List Effect
deriving BEq

/-- The default settings of a parameter and the conditional changes to them, in order. -/
structure ParameterValidation where
  default : ValidationBlock
  overrides : List ConditionalEffects
deriving BEq

/-- A parameter of a compiled action. -/
structure Parameter where
  id : String
  displayName : String
  description : Option String
  type : ParameterType
  validation : ParameterValidation
deriving BEq

/-! ### Settings that follow from the type -/

namespace ParameterType

/-- The form control of a type; a list has that of its items. -/
def renderHint : ParameterType → RenderHint
  | .integer | .long | .double | .decimal => .numericInput
  | .string | .struct _ => .textInput
  | .date | .timestamp => .dateTimePicker
  | .geohash => .geohashInput
  | .geoshape => .geoshapeInput
  | .attachment => .filePicker
  | .marking => .mandatoryMarkingPicker
  | .mediaReference => .mediaUploader
  | .user => .userDropdown
  | .group => .groupDropdown
  | .boolean | .geotimeSeriesReference | .objectReference _ | .interfaceReference _
  | .objectTypeReference _ | .objectSet _ => .dropdown
  | .list item => item.renderHint

/-- The values that a type admits; a list admits those of its items. -/
def allowedValues : ParameterType → AllowedValues
  | .boolean => .boolean
  | .integer | .long | .double | .decimal => .range none none
  | .string => .text none none
  | .date | .timestamp => .datetime none none
  | .geohash => .geohash
  | .geoshape => .geoshape
  | .attachment => .attachment
  | .marking => .marking
  | .mediaReference => .mediaReference
  | .geotimeSeriesReference => .geotimeSeriesReference
  | .user => .user
  | .group => .group
  | .struct fields => .struct (fields.map (·.1))
  | .objectReference objectType => .objectQuery objectType
  | .interfaceReference interfaceType => .interfaceObjectQuery interfaceType
  | .objectTypeReference interfaceTypes => .objectTypeReference interfaceTypes
  | .objectSet objectType => .objectSet objectType
  | .list item => item.allowedValues

/-- How requiredness is written for a type. A required list needs one item unless a minimum is
given. -/
def requirement (type : ParameterType) (required : Bool) (min max : Option Nat) : Requirement :=
  if type.isList then
    .listLength (min.or (if required then some 1 else none)) max
  else
    .flag required

/-- The settings of a parameter of a type before any configuration. -/
def defaultBlock (type : ParameterType) (required : Bool) : ValidationBlock where
  renderHint := type.renderHint
  visibility := .editable
  allowedValues := type.allowedValues
  requirement := type.requirement required none none
  prefilled := none

end ParameterType

end Ontology
