import Ontology.Proofs.Emission.SelfAgreement
import Ontology.Proofs.Registry.Declarations
import Ontology.Scenario.Fixture
import Ontology.Scenario.Runner

/-!
Steps that are blamed for what they leave behind. A scenario compares the dumps before and after a
step that fails. A step that leaves the session as it is when it fails has twice the same dump, and
still the comparison fails when there is a NaN in it (`ScenarioStep.run_eq_error_iff`). Definitions
are such steps. So `Scenario.partialRegistration_iff` says of scenarios whose steps make one
definition each that partial registration is reported exactly at a step that fails after a NaN has
come into the session, whoever brought it there. This holds whatever the setups do and however
patterns are read.
-/

set_option autoImplicit false
set_option relaxedAutoImplicit false

namespace Ontology

open Outcome

variable {session : Session} {name : String}

/-! ### One step -/

namespace ScenarioStep

/-- In every session the step makes one definition and gives what this gives. -/
def MakesOneDefinition (step : ScenarioStep) : Prop :=
  ∀ session, ∃ definition, step.action.outcome session = session.attempt definition

theorem MakesOneDefinition.atomic {step : ScenarioStep} (h : step.MakesOneDefinition) :
    step.action.Atomic := by
  intro session error
  obtain ⟨definition, houtcome⟩ := h session
  rw [houtcome]
  exact Session.declare_atomic definition session error

/-- A step that leaves the session as it is when it fails is blamed for partial registration when it
fails and the dump of the session differs from itself. -/
theorem run_eq_error_iff (patterns : PatternLanguage) {step : ScenarioStep}
    (hatomic : step.action.Atomic) :
    step.run patterns session = .error (.partialRegistration name) ↔
      (∃ error, step.action.outcome session = (session, .error error)) ∧ step.name = name ∧
        ∃ value ∈ session.dump.doubles, value.isNaN := by
  have hdiffers : (session.dump != session.dump) = true ↔
      ∃ value ∈ session.dump.doubles, value.isNaN := by
    rw [bne, Bool.not_eq_true', ← Bool.not_eq_true, Dump.beq_self_iff]
    simp
  have hleft := hatomic session
  rw [← hdiffers, run]
  rcases houtcome : step.action.outcome session with ⟨next, error | id⟩ <;> rw [houtcome] at hleft
  · obtain rfl : session = next := (hleft error rfl).symm
    by_cases hself : session.dump != session.dump
    · simp [hself, Except.isOk, Except.toBool, bind_eq_error_iff]
    · simp [hself, Except.isOk, Except.toBool, mapError_eq_error_iff]
  · -- A step that succeeds may fall short of what is expected of it, but it is not blamed.
    simp [Except.isOk, Except.toBool, mapError_eq_error_iff]

/-- Without a pattern to match it does not matter how patterns are read. -/
theorem run_of_errorPattern {step : ScenarioStep} (h : step.expectation.errorPattern = none)
    (patterns other : PatternLanguage) (session : Session) :
    step.run patterns session = step.run other session := by
  have hverify : step.expectation.verify patterns = step.expectation.verify other := by
    funext outcome registry
    unfold Expectation.verify
    rw [h]
    cases step.expectation.error <;> rfl
  rw [run, hverify, run]

end ScenarioStep

/-! ### Whole scenarios -/

namespace Scenario

/-- No step is to blame before the steps begin. -/
theorem prepare_ne_partialRegistration (scenario : Scenario) :
    scenario.prepare ≠ .error (.partialRegistration name) := by
  simp [prepare, bind_eq_error_iff, mapError_eq_error_iff]

/-- In a scenario whose steps make one definition each, partial registration is reported at a step
exactly when the steps before it have run, it fails and leaves the session as it was, and there is a
NaN somewhere in the session. -/
theorem partialRegistration_iff (patterns : PatternLanguage) {scenario : Scenario}
    (hsteps : ∀ step ∈ scenario.steps, step.MakesOneDefinition) (name : String) :
    scenario.run patterns = .error (.partialRegistration name) ↔
      ∃ before step after session, scenario.steps = before ++ step :: after ∧
        { scenario with steps := before }.run patterns = .ok session ∧
        (∃ error, step.action.outcome session = (session, .error error)) ∧ step.name = name ∧
        ∃ value ∈ session.dump.doubles, value.isNaN := by
  have hinitial (before : List ScenarioStep) (session : Session) :
      { scenario with steps := before }.run patterns = .ok session ↔
        ∃ prepared, scenario.prepare = .ok prepared ∧
          before.foldlM (ScenarioStep.run patterns) prepared = .ok session := bind_eq_ok_iff
  simp only [hinitial]
  rw [run, bind_eq_error_iff, or_iff_right scenario.prepare_ne_partialRegistration]
  simp only [foldlM_eq_error_iff]
  constructor
  · rintro ⟨prepared, hprepared, before, step, after, session, hsplit, hsession, hstep⟩
    have hatomic := (hsteps step (by simp [hsplit])).atomic
    have hstep := (ScenarioStep.run_eq_error_iff patterns hatomic).mp hstep
    exact ⟨before, step, after, session, hsplit, ⟨prepared, hprepared, hsession⟩, hstep⟩
  · rintro ⟨before, step, after, session, hsplit, ⟨prepared, hprepared, hsession⟩, hstep⟩
    have hatomic := (hsteps step (by simp [hsplit])).atomic
    have hstep := (ScenarioStep.run_eq_error_iff patterns hatomic).mpr hstep
    exact ⟨prepared, hprepared, before, step, after, session, hsplit, hsession, hstep⟩

/-- A scenario that expects no pattern to be matched runs the same however patterns are read. -/
theorem run_of_errorPattern {scenario : Scenario}
    (h : ∀ step ∈ scenario.steps, step.expectation.errorPattern = none)
    (patterns other : PatternLanguage) : scenario.run patterns = scenario.run other := by
  unfold run
  congr 1
  funext prepared
  exact foldlM_congr
    (fun step hstep ↦ ScenarioStep.run_of_errorPattern (h step hstep) patterns other) prepared

end Scenario

/-- Patterns that are read as texts to be found, as those without special characters are. -/
def PatternLanguage.plain : PatternLanguage where
  compile pattern := .ok (containsText · pattern)

/-- An action that creates a ticket with a fixed estimate, in days. -/
def Fixture.openTicket (days : Float) : CrudDraft where
  kind := .create
  target := .object (.auto "ticket")
  fixedValues := [(.auto "estimate", .literal (.double days))]

namespace Scenario

/-- Tickets are opened with an estimate that is no number; then an object type without a primary key
is refused, as expected. -/
def unestimated : Scenario where
  name := "unestimated"
  setup := [Session.declareAll Fixture.ticket]
  steps :=
    [{ name := "open"
       action := Session.declare (.generatedAction (Fixture.openTicket (0 / 0))) },
      { name := "no key"
        action := Session.declare (.objectType { name := .auto "noKey" })
        expectation := { error := some "primary key" } }]

theorem makesOneDefinition_unestimated :
    ∀ step ∈ unestimated.steps, step.MakesOneDefinition := by
  intro step hstep
  simp only [unestimated, List.mem_cons, List.not_mem_nil, or_false] at hstep
  obtain rfl | rfl := hstep <;> exact fun _ ↦ ⟨_, rfl⟩

theorem run_unestimated (patterns : PatternLanguage) :
    unestimated.run patterns = .error (.partialRegistration "no key") := by
  have hpatterns : ∀ step ∈ unestimated.steps, step.expectation.errorPattern = none := by
    simp [unestimated]
  have hcomputed : (match unestimated.run .plain with
      | .error (.partialRegistration step) => some step
      | _ => none) = some "no key" := by
    decide +kernel
  rw [run_of_errorPattern hpatterns patterns .plain]
  split at hcomputed
  · next step hrun => rw [hrun, Option.some.inj hcomputed]
  · cases hcomputed

/-- The second step is blamed for the estimate that the first one has brought in. -/
theorem partialRegistration_iff_unestimated :
    ∃ before step after session, unestimated.steps = before ++ step :: after ∧
      { unestimated with steps := before }.run .plain = .ok session ∧
      (∃ error, step.action.outcome session = (session, .error error)) ∧ step.name = "no key" ∧
      ∃ value ∈ session.dump.doubles, value.isNaN :=
  (partialRegistration_iff .plain makesOneDefinition_unestimated "no key").mp (run_unestimated _)

/-- However patterns are read, a step of one definition may be blamed although the setups
succeed. -/
theorem not_forall_atomic_blameless :
    ¬ ∃ patterns : PatternLanguage, ∀ scenario : Scenario,
      (∃ session, scenario.prepare = .ok session) →
      (∀ step ∈ scenario.steps, step.MakesOneDefinition) →
        ∀ name, scenario.run patterns ≠ .error (.partialRegistration name) := by
  rintro ⟨patterns, hall⟩
  have hprepared : unestimated.prepare.toOption.isSome := by decide +kernel
  cases hprepare : unestimated.prepare with
  | error error => simp [hprepare, Except.toOption] at hprepared
  | ok session =>
    exact hall unestimated ⟨session, hprepare⟩ makesOneDefinition_unestimated "no key"
      (run_unestimated patterns)

end Scenario

end Ontology
