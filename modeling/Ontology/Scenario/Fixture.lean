import Ontology.Session.Operation

/-!
Small ontologies to start scenarios from, as definitions in the session's own namespace, and
actions on some of them. Inputs that a single result is about stand beside it.
-/

set_option autoImplicit false
set_option relaxedAutoImplicit false

namespace Ontology.Fixture

/-- A property of an object that is declared with a type and nothing else. -/
def property (apiName : String) (type : PropertyType) : ObjectPropertyDraft :=
  .declared
    { apiName, type, displayName := apiName, description := none, sharedPropertyType := none }

/-- The type of text properties. -/
def text : PropertyType := .scalar .string

/-- An object `foo` with the primary key `bar` and one more text. -/
def foo : List Definition :=
  [.objectType
    { name := .auto "foo"
      primaryKey := some "bar"
      properties := [property "bar" text, property "optionalProp" text] }]

/-- An object `employee` whose title comes before its primary key. -/
def employee : List Definition :=
  [.objectType
    { name := .auto "employee"
      displayName := some "Employee"
      primaryKey := some "id"
      titleProperty := some "name"
      properties := [property "name" text, property "id" text, property "foo" text] }]

/-- An object `ticket` with properties of many types. -/
def ticket : List Definition :=
  [.objectType
    { name := .auto "ticket"
      displayName := some "Ticket"
      primaryKey := some "ticketId"
      properties :=
        [property "ticketId" text, property "title" text, property "priority" (.scalar .integer),
          property "estimate" (.scalar .double), property "urgent" (.scalar .boolean),
          property "dueDate" (.scalar .date), property "tags" (.array text)] }]

/-- An interface `asset` over shared property types, which extends `named`, and an object `pump`
that implements it through the shared property types behind its properties. -/
def asset : List Definition :=
  [.sharedProperty
    { name := .auto "assetName", type := text, displayName := some "Asset name" },
  .sharedProperty
    { name := .auto "serialNumber", type := text, displayName := some "Serial number" },
  .sharedProperty { name := .auto "installedOn", type := .scalar .date },
  .interfaceType { name := .auto "named", properties := [.shared (.auto "assetName") true] },
  .interfaceType
    { name := .auto "asset"
      displayName := some "Asset"
      parents := [.auto "named"]
      properties :=
        [.shared (.auto "serialNumber") true, .shared (.auto "installedOn") false] },
  .objectType
    { name := .auto "pump"
      primaryKey := some "pumpId"
      properties :=
        [property "pumpId" text, .shared "label" (.auto "assetName"),
          .shared "serial" (.auto "serialNumber")]
      implements := [{ interface := .auto "asset" }] }]

/-- An object type with a key and a size, under any identifier. -/
def thing (id : Identifier) : ObjectType where
  id := id
  displayName := "Thing"
  pluralDisplayName := "Things"
  description := none
  primaryKey := "id"
  titleProperty := "id"
  properties :=
    [⟨"id", text, "id", none, none⟩, ⟨"size", .scalar .integer, "size", none, none⟩]
  implements := []

/-- The registry of a session after definitions. -/
def registry (definitions : List Definition) : Registry :=
  let session : Session :=
    ⟨{ qualifier := "com.example" }, ⟨⟨"com.example."⟩, true⟩, .empty⟩
  (session.run definitions).1.registry

/-! ### Actions -/

/-- An action that edits a ticket on behalf of a user group. Its form asks for a reason on top of
the properties, marks the ticket as urgent, and leaves out the due date. -/
def editTicket : CrudDefinition where
  id := ⟨"com.example.edit-ticket"⟩
  kind := .modify
  target := .object ⟨"com.example.ticket"⟩
  excluded := ["dueDate"]
  fixedValues := [("urgent", .literal (.boolean true))]
  configuration :=
    [("tags", { displayName := some "Labels", listMax := some 3 }),
      ("reason", { type := some .string, required := some true }),
      ("estimate",
        { overrides :=
            [{ condition := .parameter "priority" .greaterThan (.literal (.integer 3))
               effects := [.visibility .hidden] }] })]
  sections := [{ id := "planning", parameters := ["priority", "estimate"] }]
  validation := [⟨.parameter "reason" .notEquals (.literal (.string "")), "A reason is needed"⟩]
  submitterGroups := ["support"]

/-- An action that creates a `foo` after the model of another one: its optional text starts as that
of the object that a parameter holds. -/
def copyFoo (model : String) : CrudDefinition where
  id := ⟨"com.example.copy-foo"⟩
  kind := .create
  target := .object ⟨"com.example.foo"⟩
  configuration :=
    [("optionalProp", { prefilled := some (.objectProperty model "optionalProp") }),
      ("original", { type := some (.objectReference ⟨"com.example.foo"⟩) })]

/-- The parameters of a form on tickets that conditions can look at. -/
def triage : Scope where
  declarations := [("priority", .integer), ("owner", .user), ("tags", .list .string)]

end Ontology.Fixture
