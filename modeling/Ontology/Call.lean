/-!
Calls on a state. A call reads and writes a state step by step and may fail on the way. A failure
undoes nothing: it comes with the state that has been reached, so what a call leaves behind is what
its steps have written. `Call.outcome` tells the state that is left and the value or the error, and
`Call.after` the state after a call that succeeds.
-/

set_option autoImplicit false
set_option relaxedAutoImplicit false

namespace Ontology

/-- A procedure on states. Its errors keep the state that has been reached. -/
abbrev Call (ε σ : Type) : Type → Type := EStateM ε σ

namespace Call

variable {ε σ α : Type}

/-- A computation that does without the state is a step of a call. -/
instance : MonadLift (Except ε) (Call ε σ) := ⟨liftExcept⟩

/-- The state that a call leaves, and its value or its error. -/
def outcome (call : Call ε σ α) (state : σ) : σ × Except ε α :=
  match call.run state with
  | .ok value left => (left, .ok value)
  | .error error left => (left, .error error)

/-- The state after a call that succeeds, or the error of one that fails. -/
def after (call : Call ε σ α) (state : σ) : Except ε σ :=
  let (left, result) := call.outcome state
  result.map fun _ ↦ left

end Call

end Ontology
