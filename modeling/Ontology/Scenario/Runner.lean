import Ontology.Scenario.Expectation

/-!
Scenarios: a session, calls that set it up, and steps with what is expected of them. Setups and
steps may do anything with the session. A step that fails must leave the session as it found it,
which is judged by the dumps before and after.
-/

set_option autoImplicit false
set_option relaxedAutoImplicit false

namespace Ontology

/-- Why a scenario failed. -/
inductive ScenarioError where
  | sessionStart (scenario : String) (cause : SessionError)
  | setup (scenario : String) (cause : SessionError)
  | assertionFailed (step : String) (cause : Discrepancy)
  | partialRegistration (step : String)

/-- The wording of a failure. -/
def ScenarioError.message : ScenarioError → String
  | .sessionStart scenario cause => s!"failed to start scenario '{scenario}': " ++ cause.message
  | .setup scenario cause => s!"setup of scenario '{scenario}' failed: " ++ cause.message
  | .assertionFailed step cause => s!"assertion failed for step '{step}': " ++ cause.message
  | .partialRegistration step => s!"step '{step}' failed but left the registry modified"

/-- A step of a scenario: a call on the session that is to define an action. -/
structure ScenarioStep where
  name : String
  action : Call SessionError Session Identifier
  expectation : Expectation := {}

/-- A session to start, calls that set it up, and steps. -/
structure Scenario where
  name : String
  options : SessionOptions := { qualifier := "com.example" }
  setup : List (Call SessionError Session Unit) := []
  steps : List ScenarioStep := []

/-- The session after a step that does what is expected of it. -/
def ScenarioStep.run (patterns : PatternLanguage) (session : Session) (step : ScenarioStep) :
    Except ScenarioError Session := do
  let (next, outcome) := step.action.outcome session
  if !outcome.isOk && next.dump != session.dump then throw (.partialRegistration step.name)
  (step.expectation.verify patterns (outcome.mapError (·.message)) next.registry).mapError
    (.assertionFailed step.name)
  return next

namespace Scenario

/-- The session when the steps begin. -/
def prepare (scenario : Scenario) : Except ScenarioError Session := do
  let fresh ← (Session.start scenario.options).mapError (.sessionStart scenario.name)
  (scenario.setup.foldlM (fun session setup ↦ Call.after setup session) fresh).mapError
    (.setup scenario.name)

/-- The session at the end of a scenario whose steps all do what is expected of them. -/
def run (patterns : PatternLanguage) (scenario : Scenario) : Except ScenarioError Session := do
  scenario.steps.foldlM (ScenarioStep.run patterns) (← scenario.prepare)

end Scenario

end Ontology
