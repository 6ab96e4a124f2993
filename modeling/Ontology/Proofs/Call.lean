import Ontology.Call
import Ontology.Proofs.Outcome

/-!
What calls do to their state. The equations for `Call.outcome` and `Call.after` run a call step by
step. Three properties of a call follow from those of its steps: it writes nothing
(`Call.ReadOnly`), it never fails (`Call.Infallible`), it writes nothing if it fails
(`Call.Atomic`). A call is atomic when its steps that may fail come before those that write:
`ReadOnly.bind_atomic` takes away what comes first, and `Infallible.atomic` ends the argument.
`Call.Gives` bounds the values of a call in the same way, step by step.
-/

set_option autoImplicit false
set_option relaxedAutoImplicit false

namespace Ontology.Call

variable {ε ε' σ α β : Type}

/-! ### Step by step -/

/-- The second step runs on the state that the first one leaves, unless the first one fails. -/
theorem outcome_bind (call : Call ε σ α) (next : α → Call ε σ β) (state : σ) :
    outcome (call >>= next) state =
      match call.outcome state with
      | (left, .ok value) => (next value).outcome left
      | (left, .error error) => (left, .error error) := by
  simp only [outcome, EStateM.run_bind]
  cases call.run state <;> rfl

theorem outcome_lift (result : Except ε α) (state : σ) :
    outcome (liftM result) state = (state, result) := by
  cases result <;> rfl

theorem outcome_adaptExcept (wrap : ε → ε') (call : Call ε σ α) (state : σ) :
    outcome (call.adaptExcept wrap) state =
      ((call.outcome state).1, (call.outcome state).2.mapError wrap) := by
  simp only [outcome, EStateM.run_adaptExcept]
  cases call.run state <;> rfl

@[simp] theorem after_pure (value : α) (state : σ) :
    after (pure value : Call ε σ α) state = pure state := rfl

-- The next three are proved by rewriting on purpose. As definitional equations they would have the
-- kernel compare whole calls, down to what compiles an action.
@[simp] theorem after_get_bind (next : σ → Call ε σ α) (state : σ) :
    after (get >>= next) state = (next state).after state := by
  rw [after, outcome_bind]
  rfl

@[simp] theorem after_set_bind (written : σ) (next : PUnit → Call ε σ α) (state : σ) :
    after (set written >>= next) state = (next ⟨⟩).after written := by
  rw [after, outcome_bind]
  rfl

@[simp] theorem after_modify_bind (change : σ → σ) (next : PUnit → Call ε σ α) (state : σ) :
    after (modify change >>= next) state = (next ⟨⟩).after (change state) := by
  rw [after, outcome_bind]
  rfl

@[simp] theorem after_lift_bind (result : Except ε α) (next : α → Call ε σ β) (state : σ) :
    after (liftM result >>= next) state = result >>= fun value ↦ (next value).after state := by
  cases result <;> rfl

@[simp] theorem after_adaptExcept (wrap : ε → ε') (call : Call ε σ α) (state : σ) :
    after (call.adaptExcept wrap) state = (call.after state).mapError wrap := by
  unfold after
  rw [outcome_adaptExcept]
  rcases call.outcome state with ⟨left, error | value⟩ <;> rfl

theorem after_eq_ok_iff {call : Call ε σ α} {state next : σ} :
    call.after state = .ok next ↔ ∃ value, call.outcome state = (next, .ok value) := by
  unfold after
  rcases call.outcome state with ⟨left, error | value⟩ <;> simp [Except.map]

theorem after_eq_error_iff {call : Call ε σ α} {state : σ} {error : ε} :
    call.after state = .error error ↔ (call.outcome state).2 = .error error := by
  unfold after
  rcases call.outcome state with ⟨left, error | value⟩ <;> simp [Except.map]

/-! ### What is left behind -/

/-- The call leaves every state as it is. -/
def ReadOnly (call : Call ε σ α) : Prop := ∀ state, (call.outcome state).1 = state

/-- The call succeeds in every state. -/
def Infallible (call : Call ε σ α) : Prop := ∀ state, ∃ value, (call.outcome state).2 = .ok value

/-- The call leaves a state in which it fails as it is. -/
def Atomic (call : Call ε σ α) : Prop :=
  ∀ state error, (call.outcome state).2 = .error error → (call.outcome state).1 = state

theorem readOnly_lift (result : Except ε α) : ReadOnly (liftM result : Call ε σ α) := by
  intro state
  rw [outcome_lift]

theorem readOnly_get : ReadOnly (get : Call ε σ σ) := fun _ ↦ rfl

theorem infallible_modify (change : σ → σ) : Infallible (modify change : Call ε σ PUnit) :=
  fun _ ↦ ⟨⟨⟩, rfl⟩

theorem infallible_set (written : σ) : Infallible (set written : Call ε σ PUnit) :=
  fun _ ↦ ⟨⟨⟩, rfl⟩

theorem infallible_pure (value : α) : Infallible (pure value : Call ε σ α) := fun _ ↦ ⟨value, rfl⟩

theorem Infallible.bind {call : Call ε σ α} {next : α → Call ε σ β} (h : call.Infallible)
    (hnext : ∀ value, (next value).Infallible) : Infallible (call >>= next) := by
  intro state
  obtain ⟨value, hvalue⟩ := h state
  rw [outcome_bind]
  split
  · exact hnext _ _
  · next heq => simp [heq] at hvalue

theorem Infallible.atomic {call : Call ε σ α} (h : call.Infallible) : call.Atomic := by
  intro state error herror
  obtain ⟨value, hvalue⟩ := h state
  rw [hvalue] at herror
  cases herror

/-- What comes first may fail as long as it writes nothing. -/
theorem ReadOnly.bind_atomic {call : Call ε σ α} {next : α → Call ε σ β} (h : call.ReadOnly)
    (hnext : ∀ value, (next value).Atomic) : Atomic (call >>= next) := by
  intro state error
  have hleft := h state
  rw [outcome_bind]
  split
  · next heq =>
    rw [heq] at hleft
    cases hleft
    exact hnext _ _ error
  · next heq =>
    intro _
    rwa [heq] at hleft

theorem Atomic.outcome_of_error {call : Call ε σ α} (hatomic : call.Atomic) {state : σ} {error : ε}
    (h : call.after state = .error error) : call.outcome state = (state, .error error) := by
  have herror := after_eq_error_iff.mp h
  exact Prod.ext (hatomic state error herror) herror

theorem Atomic.adaptExcept {call : Call ε σ α} (h : call.Atomic) (wrap : ε → ε') :
    Atomic (call.adaptExcept wrap) := by
  intro state error herror
  rw [outcome_adaptExcept] at herror ⊢
  obtain ⟨cause, hcause, -⟩ := Outcome.mapError_eq_error_iff.mp herror
  exact h state cause hcause

/-! ### What is given back -/

/-- Every value that the call gives has a property. -/
def Gives (P : α → Prop) (call : Call ε σ α) : Prop :=
  ∀ state value, (call.outcome state).2 = .ok value → P value

variable {P : β → Prop}

theorem gives_pure {value : β} (h : P value) : Gives P (pure value : Call ε σ β) := by
  rintro state _ ⟨⟩
  exact h

theorem Gives.bind {call : Call ε σ α} {next : α → Call ε σ β}
    (hnext : ∀ value, Gives P (next value)) : Gives P (call >>= next) := by
  intro state value
  rw [outcome_bind]
  split
  · exact hnext _ _ value
  · exact nofun

theorem gives_lift_bind {result : Except ε α} {next : α → Call ε σ β}
    (hnext : ∀ value, result = .ok value → Gives P (next value)) :
    Gives P (liftM result >>= next) := by
  intro state value
  rw [outcome_bind, outcome_lift]
  cases result with
  | error error => exact nofun
  | ok first => exact hnext first rfl state value

theorem Gives.adaptExcept {call : Call ε σ β} (h : Gives P call) (wrap : ε → ε') :
    Gives P (call.adaptExcept wrap) := by
  intro state value hvalue
  rw [outcome_adaptExcept] at hvalue
  exact h state value (Outcome.mapError_eq_ok_iff.mp hvalue)

end Ontology.Call
