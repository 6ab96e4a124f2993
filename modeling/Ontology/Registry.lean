import Ontology.Table
import Ontology.Schema
import Ontology.ActionType

/-!
The entities of a session. A `Registry` holds those that the session defined, those that it
imported for reference, and the submission restrictions of its actions. Every lookup prefers the
defined entity of an identifier to the imported one, and writing an entity replaces the one of the
same kind, identifier and side.
-/

set_option autoImplicit false
set_option relaxedAutoImplicit false

namespace Ontology

/-- The kinds of entity. -/
inductive EntityKind where
  | sharedPropertyType
  | interfaceType
  | objectType
  | actionType
  | valueType
deriving DecidableEq

/-- The name of a kind of entity. -/
def EntityKind.display : EntityKind → String
  | .sharedPropertyType => "shared property type"
  | .interfaceType => "interface type"
  | .objectType => "object type"
  | .actionType => "action type"
  | .valueType => "value type"

/-- An entity of any kind. -/
inductive Entity where
  | sharedPropertyType (type : SharedPropertyType)
  | interfaceType (type : InterfaceType)
  | objectType (type : ObjectType)
  | actionType (type : ActionType)
  | valueType (type : ValueType)

namespace Entity

/-- The identifier of an entity. -/
def id : Entity → Identifier
  | .sharedPropertyType type => type.id
  | .interfaceType type => type.id
  | .objectType type => type.id
  | .actionType type => type.id
  | .valueType type => type.id

/-- The kind of an entity. -/
def kind : Entity → EntityKind
  | .sharedPropertyType _ => .sharedPropertyType
  | .interfaceType _ => .interfaceType
  | .objectType _ => .objectType
  | .actionType _ => .actionType
  | .valueType _ => .valueType

end Entity

/-! ### One side of a registry -/

/-- Entities of every kind, each under its identifier. -/
structure EntityStore where
  sharedPropertyTypes : Table SharedPropertyType := .empty
  interfaceTypes : Table InterfaceType := .empty
  objectTypes : Table ObjectType := .empty
  actionTypes : Table ActionType := .empty
  valueTypes : Table ValueType := .empty

namespace EntityStore

/-- The store with an entity under its identifier. -/
def insert (store : EntityStore) : Entity → EntityStore
  | .sharedPropertyType type =>
    { store with sharedPropertyTypes := store.sharedPropertyTypes.insert type.id type }
  | .interfaceType type => { store with interfaceTypes := store.interfaceTypes.insert type.id type }
  | .objectType type => { store with objectTypes := store.objectTypes.insert type.id type }
  | .actionType type => { store with actionTypes := store.actionTypes.insert type.id type }
  | .valueType type => { store with valueTypes := store.valueTypes.insert type.id type }

/-- The entity of a kind under an identifier. -/
def find? (store : EntityStore) (kind : EntityKind) (id : Identifier) : Option Entity :=
  match kind with
  | .sharedPropertyType => (store.sharedPropertyTypes.get? id).map .sharedPropertyType
  | .interfaceType => (store.interfaceTypes.get? id).map .interfaceType
  | .objectType => (store.objectTypes.get? id).map .objectType
  | .actionType => (store.actionTypes.get? id).map .actionType
  | .valueType => (store.valueTypes.get? id).map .valueType

/-- Whether the ontology proper is empty. Value types, which stand beside it, do not count. -/
def isEmpty (store : EntityStore) : Bool :=
  store.sharedPropertyTypes.isEmpty && store.interfaceTypes.isEmpty &&
    store.objectTypes.isEmpty && store.actionTypes.isEmpty

end EntityStore

/-! ### Registries -/

/-- The entities that a session defined or imported, and who may submit its actions. -/
structure Registry where
  defined : EntityStore := {}
  imported : EntityStore := {}
  permissions : Table ActionPermission := .empty

namespace Registry

/-- The registry without entities. -/
def empty : Registry := {}

/-- The registry with an entity that the session defines. -/
def register (registry : Registry) (entity : Entity) : Registry :=
  { registry with defined := registry.defined.insert entity }

/-- The registry with an entity that stands for reference only. -/
def addImported (registry : Registry) (entity : Entity) : Registry :=
  { registry with imported := registry.imported.insert entity }

/-- The registry in which only certain groups may submit an action. -/
def restrict (registry : Registry) (permission : ActionPermission) : Registry :=
  { registry with permissions := registry.permissions.insert permission.actionType permission }

/-- The registry in which anyone may submit an action. -/
def unrestrict (registry : Registry) (action : Identifier) : Registry :=
  { registry with permissions := registry.permissions.erase action }

/-! ### Lookups -/

/-- The entity of a kind and an identifier. -/
def lookup (registry : Registry) (kind : EntityKind) (id : Identifier) : Option Entity :=
  (registry.defined.find? kind id).or (registry.imported.find? kind id)

/-- Whether the entity of a kind and an identifier is an imported one. -/
def isImported (registry : Registry) (kind : EntityKind) (id : Identifier) : Bool :=
  (registry.defined.find? kind id).isNone && (registry.imported.find? kind id).isSome

/-- The shared property type of an identifier. -/
def sharedPropertyType? (registry : Registry) (id : Identifier) : Option SharedPropertyType :=
  (registry.defined.sharedPropertyTypes.get? id).or (registry.imported.sharedPropertyTypes.get? id)

/-- The interface type of an identifier. -/
def interfaceType? (registry : Registry) (id : Identifier) : Option InterfaceType :=
  (registry.defined.interfaceTypes.get? id).or (registry.imported.interfaceTypes.get? id)

/-- The object type of an identifier. -/
def objectType? (registry : Registry) (id : Identifier) : Option ObjectType :=
  (registry.defined.objectTypes.get? id).or (registry.imported.objectTypes.get? id)

/-- The action type of an identifier. -/
def actionType? (registry : Registry) (id : Identifier) : Option ActionType :=
  (registry.defined.actionTypes.get? id).or (registry.imported.actionTypes.get? id)

/-- The value type of an identifier. -/
def valueType? (registry : Registry) (id : Identifier) : Option ValueType :=
  (registry.defined.valueTypes.get? id).or (registry.imported.valueTypes.get? id)

/-- The submission restriction of an action. -/
def permission? (registry : Registry) (action : Identifier) : Option ActionPermission :=
  registry.permissions.get? action

end Registry

end Ontology
