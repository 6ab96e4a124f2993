import Ontology.Proofs.Registry.Step
import Ontology.Session.Operation
import Mathlib.Data.List.Induction

/-!
Runs of a session, operation by operation. A definition that is accepted does to the registry what
it does outside a run, one that is refused does nothing, and the policy never changes. So what the
definitions and the imports of a run keep, each on its own, holds after the run
(`Session.performAll_keeps`).
-/

set_option autoImplicit false
set_option relaxedAutoImplicit false

namespace Ontology.Session

variable {start session next : Session} {definition : Definition} {operation : Operation}
  {operations : List Operation}

/-! ### One operation -/

theorem perform_define (h : session.define definition = .ok next) :
    session.perform (.define definition) = next := by
  obtain ⟨id, hattempt⟩ := attempt_of_ok h
  rw [perform, hattempt]

theorem perform_refused {error : SessionError} (h : session.define definition = .error error) :
    session.perform (.define definition) = session := by
  rw [perform, attempt_of_error h]

theorem perform_policy : (session.perform operation).policy = session.policy := by
  cases operation with
  | addImported | reset => rfl
  | define definition =>
    cases hdefine : session.define definition with
    | error error => rw [perform_refused hdefine]
    | ok next =>
      rw [perform_define hdefine]
      obtain ⟨registry, -, rfl⟩ := define_eq_ok_iff.mp hdefine
      rfl

/-! ### Many operations -/

theorem performAll_concat (start : Session) (operations : List Operation) (operation : Operation) :
    start.performAll (operations ++ [operation]) =
      (start.performAll operations).perform operation := by
  rw [performAll, List.foldl_append]
  rfl

theorem performAll_policy : (start.performAll operations).policy = start.policy := by
  induction operations using List.reverseRecOn with
  | nil => rfl
  | append_singleton operations operation ih => rw [performAll_concat, perform_policy, ih]

/-- What holds of the empty registry and is kept by the definitions under the session's policy and
by the imports of the run holds after the run. -/
theorem performAll_keeps {P : Registry → Prop} (h : P start.registry) (hempty : P .empty)
    (hdefine : ∀ (registry next : Registry) (definition : Definition),
      definition.apply start.policy registry = .ok next → P registry → P next)
    (himport : ∀ entity, .addImported entity ∈ operations →
      ∀ registry : Registry, P registry → P (registry.addImported entity)) :
    P (start.performAll operations).registry := by
  induction operations using List.reverseRecOn with
  | nil => exact h
  | append_singleton operations operation ih =>
    have hbefore : P (start.performAll operations).registry :=
      ih fun entity hmem ↦ himport entity (List.mem_append_left _ hmem)
    rw [performAll_concat]
    cases operation with
    | reset => exact hempty
    | addImported entity =>
      exact himport entity (List.mem_append_right _ List.mem_cons_self) _ hbefore
    | define definition =>
      cases haccepted : (start.performAll operations).define definition with
      | error error => rwa [perform_refused haccepted]
      | ok next =>
        rw [perform_define haccepted]
        obtain ⟨registry, happly, rfl⟩ := define_eq_ok_iff.mp haccepted
        rw [performAll_policy] at happly
        exact hdefine _ registry definition happly hbefore

end Ontology.Session
