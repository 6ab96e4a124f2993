import Ontology.Registry

/-!
Snapshots of a registry. A `Dump` lists what was defined and what was imported, each kind under its
identifiers, with the columns of every object type worked out. Two dumps are compared by `==` as
their values are: a NaN anywhere makes a dump differ from itself.
-/

set_option autoImplicit false
set_option relaxedAutoImplicit false

namespace Ontology

/-- An object type with the columns of its data source. -/
structure DumpedObject where
  type : ObjectType
  columns : List Column
deriving DecidableEq

/-- An object type with the columns that its properties give. -/
def DumpedObject.ofType (type : ObjectType) : DumpedObject := ⟨type, type.columns⟩

/-- One side of a dump: the ontology proper, without value types. -/
structure OntologyDump where
  sharedPropertyTypes : Table SharedPropertyType
  interfaceTypes : Table InterfaceType
  objectTypes : Table DumpedObject
  actionTypes : Table ActionType
deriving BEq

/-- The ontology that a store holds. -/
def EntityStore.dump (store : EntityStore) : OntologyDump where
  sharedPropertyTypes := store.sharedPropertyTypes
  interfaceTypes := store.interfaceTypes
  objectTypes := store.objectTypes.map .ofType
  actionTypes := store.actionTypes

/-- Everything that a session defined or imported. -/
structure Dump where
  ontology : OntologyDump
  importedOntology : OntologyDump
  valueTypes : Table ValueType
  importedValueTypes : Table ValueType
  actionPermissions : Table ActionPermission
  /-- A key that is handed on as it was given. -/
  randomnessKey : Option String
deriving BEq

/-- The snapshot of a registry. -/
def Registry.dump (registry : Registry) (randomnessKey : Option String) : Dump where
  ontology := registry.defined.dump
  importedOntology := registry.imported.dump
  valueTypes := registry.defined.valueTypes
  importedValueTypes := registry.imported.valueTypes
  actionPermissions := registry.permissions
  randomnessKey := randomnessKey

end Ontology
