import Ontology.Identifier
import Ontology.PropertyType

/-!
The value types of action parameters. They add references to entities, users and groups to the
types that properties have, and write an array as a list. `PropertyType.parameterType?` gives the
type of the parameter that fills a property, and nothing for vectors, which no form can enter.
-/

set_option autoImplicit false
set_option relaxedAutoImplicit false

namespace Ontology

/-- The value type of an action parameter. -/
inductive ParameterType where
  | boolean
  | integer
  | long
  | double
  | decimal
  | string
  | date
  | timestamp
  | geohash
  | geoshape
  | attachment
  | marking
  | mediaReference
  | geotimeSeriesReference
  | user
  | group
  /-- Named fields, each with a property type. -/
  | struct (fields : List (String × PropertyType))
  /-- An object of one type. -/
  | objectReference (objectType : Identifier)
  /-- An object that implements an interface. -/
  | interfaceReference (interfaceType : Identifier)
  /-- An object type that implements all the interfaces. -/
  | objectTypeReference (interfaceTypes : List Identifier)
  /-- A set of objects of one type. -/
  | objectSet (objectType : Identifier)
  | list (item : ParameterType)
deriving DecidableEq

namespace ParameterType

/-- Whether the type is a list. -/
def isList : ParameterType → Bool
  | .list _ => true
  | _ => false

/-- The element type of a list, and any other type itself. -/
def itemType : ParameterType → ParameterType
  | .list item => item
  | type => type

/-- The name of the kind of type. -/
def typeName : ParameterType → String
  | .boolean => "boolean"
  | .integer => "integer"
  | .long => "long"
  | .double => "double"
  | .decimal => "decimal"
  | .string => "string"
  | .date => "date"
  | .timestamp => "timestamp"
  | .geohash => "geohash"
  | .geoshape => "geoshape"
  | .attachment => "attachment"
  | .marking => "marking"
  | .mediaReference => "mediaReference"
  | .geotimeSeriesReference => "geotimeSeriesReference"
  | .user => "user"
  | .group => "group"
  | .struct _ => "struct"
  | .objectReference _ => "objectReference"
  | .interfaceReference _ => "interfaceReference"
  | .objectTypeReference _ => "objectTypeReference"
  | .objectSet _ => "objectSet"
  | .list _ => "list"

/-- The text of a type in messages. -/
def display : ParameterType → String
  | .list item => item.display ++ "List"
  | type => type.typeName

instance : ToString ParameterType := ⟨display⟩

end ParameterType

/-- The type of the parameter that fills a property of a scalar type. -/
def ScalarType.parameterType? : ScalarType → Option ParameterType
  | .string => some .string
  | .boolean => some .boolean
  | .byte | .short | .integer => some .integer
  | .long => some .long
  | .float | .double => some .double
  | .decimal => some .decimal
  | .date => some .date
  | .timestamp => some .timestamp
  | .geopoint => some .geohash
  | .geoshape => some .geoshape
  | .attachment => some .attachment
  | .marking => some .marking
  | .mediaReference => some .mediaReference
  | .geotimeSeries => some .geotimeSeriesReference
  | .vector => none

/-- The type of the parameter that fills a property. -/
def PropertyType.parameterType? : PropertyType → Option ParameterType
  | .scalar type => type.parameterType?
  | .struct fields => some (.struct fields)
  | .array item => item.parameterType?.map .list

end Ontology
