import Ontology.Session

/-!
What is done in a session: definitions, imports and resets. `Session.attempt` makes one definition
and tells the session that is left, with the identifier of what was defined or why it was refused.
`Session.performAll` runs operations in order and goes on after a refusal.
-/

set_option autoImplicit false
set_option relaxedAutoImplicit false

namespace Ontology.Session

/-- The session that one definition leaves, with the identifier of what was defined or why it was
refused. -/
def attempt (session : Session) (definition : Definition) :
    Session × Except SessionError Identifier :=
  (declare definition).outcome session

/-- One thing that is done in a session. -/
inductive Operation where
  | define (definition : Definition)
  /-- Adds an entity that stands for reference only. -/
  | addImported (entity : Entity)
  | reset

/-- The session after an operation. -/
def perform (session : Session) : Operation → Session
  | .define definition => (session.attempt definition).1
  | .addImported entity => session.addImported entity
  | .reset => session.reset

/-- The session after operations in order. -/
def performAll (session : Session) (operations : List Operation) : Session :=
  operations.foldl perform session

end Ontology.Session
