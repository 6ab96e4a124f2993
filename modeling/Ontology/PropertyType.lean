/-!
The value types of ontology properties: scalars, structures with named fields, and arrays of any
depth. Equality is decidable, and `PropertyType.display` is the text of a type in messages.
-/

set_option autoImplicit false
set_option relaxedAutoImplicit false

namespace Ontology

/-- The property types without parts. -/
inductive ScalarType where
  | string
  | boolean
  | byte
  | short
  | integer
  | long
  | float
  | double
  | decimal
  | date
  | timestamp
  | geopoint
  | geoshape
  | attachment
  | marking
  | mediaReference
  | geotimeSeries
  | vector
deriving DecidableEq

/-- The name of a scalar type. -/
def ScalarType.name : ScalarType → String
  | .string => "string"
  | .boolean => "boolean"
  | .byte => "byte"
  | .short => "short"
  | .integer => "integer"
  | .long => "long"
  | .float => "float"
  | .double => "double"
  | .decimal => "decimal"
  | .date => "date"
  | .timestamp => "timestamp"
  | .geopoint => "geopoint"
  | .geoshape => "geoshape"
  | .attachment => "attachment"
  | .marking => "marking"
  | .mediaReference => "mediaReference"
  | .geotimeSeries => "geotimeSeries"
  | .vector => "vector"

/-- The value type of a property. -/
inductive PropertyType where
  | scalar (type : ScalarType)
  /-- Named fields, each with a type of its own. -/
  | struct (fields : List (String × PropertyType))
  | array (item : PropertyType)

namespace PropertyType

instance : Inhabited PropertyType := ⟨.scalar .string⟩

/-! ### Equality -/

mutual

/-- Whether two types are the same. -/
def same : PropertyType → PropertyType → Bool
  | .scalar a, .scalar b => a = b
  | .struct a, .struct b => sameFields a b
  | .array a, .array b => same a b
  | _, _ => false

/-- Whether two field lists have the same names and types in the same order. -/
def sameFields : List (String × PropertyType) → List (String × PropertyType) → Bool
  | [], [] => true
  | (a, s) :: as, (b, t) :: bs => a = b && same s t && sameFields as bs
  | _, _ => false

end

mutual

theorem same_iff : ∀ s t : PropertyType, same s t = true ↔ s = t
  | .scalar a, .scalar b => by simp [same]
  | .struct a, .struct b => by simp [same, sameFields_iff a b]
  | .array a, .array b => by simp [same, same_iff a b]
  | .scalar _, .struct _ | .scalar _, .array _ | .struct _, .scalar _ | .struct _, .array _
  | .array _, .scalar _ | .array _, .struct _ => by simp [same]

theorem sameFields_iff : ∀ s t : List (String × PropertyType), sameFields s t = true ↔ s = t
  | [], [] => by simp [sameFields]
  | (a, s) :: as, (b, t) :: bs => by
    simp [sameFields, same_iff s t, sameFields_iff as bs, and_assoc]
  | [], _ :: _ | _ :: _, [] => by simp [sameFields]

end

instance : DecidableEq PropertyType := fun s t ↦ decidable_of_iff _ (same_iff s t)

/-! ### Views -/

/-- Whether the type is an array. -/
def isArray : PropertyType → Bool
  | .array _ => true
  | _ => false

/-- The element type of an array, and any other type itself. -/
def itemType : PropertyType → PropertyType
  | .array item => item
  | type => type

/-- The name of the kind of type. -/
def typeName : PropertyType → String
  | .scalar type => type.name
  | .struct _ => "struct"
  | .array _ => "array"

/-- The text of a type in messages. -/
def display : PropertyType → String
  | .array item => "array<" ++ item.display ++ ">"
  | .struct _ => "struct"
  | .scalar type => type.name

instance : ToString PropertyType := ⟨display⟩

end PropertyType

end Ontology
