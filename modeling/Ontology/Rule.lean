import Ontology.Literal
import Ontology.Identifier

/-!
The rules of an action: which object or interface object it creates, changes or deletes, and where
the values of the properties come from.
-/

set_option autoImplicit false
set_option relaxedAutoImplicit false

namespace Ontology

/-- Where the value of a property comes from. -/
inductive ValueSource where
  | parameter (id : String)
  | literal (value : Literal)
  | currentUser
  | currentTime
  /-- A property of the object that a parameter holds. -/
  | objectProperty (parameter property : String)
deriving BEq

/-- The parameter that is read, if any. -/
def ValueSource.parameter? : ValueSource → Option String
  | .parameter id => some id
  | .objectProperty id _ => some id
  | _ => none

/-- A value for a property of an object. -/
structure ObjectBinding where
  property : String
  value : ValueSource
deriving BEq

/-- A value for a property of an interface. -/
structure InterfaceBinding where
  property : Identifier
  value : ValueSource
deriving BEq

/-- What an action does. -/
inductive Rule where
  | addObject (objectType : Identifier) (values : List ObjectBinding)
  | modifyObject (target : String) (values : List ObjectBinding)
  | deleteObject (target : String)
  | addOrModifyObject (target : String) (values : List ObjectBinding)
  | addInterface (interfaceType : Identifier) (objectType : String)
      (values : List InterfaceBinding)
  /-- With an object type parameter, a new object of the chosen type is created where the target
  parameter is empty. -/
  | modifyInterface (interfaceType : Identifier) (target : String) (objectType : Option String)
      (values : List InterfaceBinding)
deriving BEq

/-- The name of the kind of rule. -/
def Rule.kindName : Rule → String
  | .addObject .. => "addObject"
  | .modifyObject .. => "modifyObject"
  | .deleteObject .. => "deleteObject"
  | .addOrModifyObject .. => "addOrModifyObject"
  | .addInterface .. => "addInterface"
  | .modifyInterface .. => "modifyInterface"

end Ontology
