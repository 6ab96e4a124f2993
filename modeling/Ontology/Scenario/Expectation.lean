import Ontology.Session
import Ontology.Scenario.Quotation

/-!
What a step of a scenario is expected to do: to fail with a certain message, or to register an
action of a certain shape. `Expectation.verify` reports the first thing that differs. A message may
be expected to match a pattern; how patterns are read is left to a `PatternLanguage`.
-/

set_option autoImplicit false
set_option relaxedAutoImplicit false

namespace Ontology

/-! ### Texts and patterns -/

/-- Whether some characters occur in a row in others. -/
def containsChars (part : List Char) : List Char → Bool
  | [] => part.isEmpty
  | c :: rest => part.isPrefixOf (c :: rest) || containsChars part rest

/-- Whether a text contains another. -/
def containsText (whole part : String) : Bool := containsChars part.toList whole.toList

/-- A language of text patterns. -/
structure PatternLanguage where
  /-- The texts that a pattern matches, or why it is not a pattern. -/
  compile : String → Except String (String → Bool)

/-! ### Discrepancies -/

/-- How a step differs from what is expected of it. -/
inductive Discrepancy where
  | otherError (expected actual : String)
  | noError (expected : String)
  | invalidPattern (cause : String)
  | unmatchedError (pattern actual : String)
  | noMatchingError (pattern : String)
  | stepFailed (error : String)
  | notRegistered (id : Identifier)
  | customFailed
  | otherTexts (what : String) (expected actual : List String)
  | otherText (what expected actual : String)
  | ruleCount (expected actual : Nat)
  | missingParameter (id : String)
  | requiredness (id : String) (expected actual : Bool)
deriving DecidableEq

/-- The wording of two values that differ. -/
def mismatchText (what expected actual : String) : String :=
  what ++ " mismatch:\n  expected: " ++ expected ++ "\n  actual:   " ++ actual

/-- The wording of a difference. -/
def Discrepancy.message : Discrepancy → String
  | .otherError expected actual => s!"expected error containing '{expected}', got: {actual}"
  | .noError expected => s!"expected error containing '{expected}', but step succeeded"
  | .invalidPattern cause => s!"invalid regex pattern: {cause}"
  | .unmatchedError pattern actual => s!"expected error matching '{pattern}', got: {actual}"
  | .noMatchingError pattern => s!"expected error matching '{pattern}', but step succeeded"
  | .stepFailed error => s!"step failed: {error}"
  | .notRegistered id => s!"action type '{id}' was not registered"
  | .customFailed => "custom assertion failed"
  | .otherTexts what expected actual =>
    mismatchText what (quoteTexts expected) (quoteTexts actual)
  | .otherText what expected actual => mismatchText what (quoteText expected) (quoteText actual)
  | .ruleCount expected actual => s!"expected {expected} action-level rules, got {actual}"
  | .missingParameter id => s!"parameter '{id}' not found"
  | .requiredness id expected actual =>
    s!"parameter '{id}': expected required={expected}, got {actual}"

/-- What is expected of a step. What is left open is not looked at. -/
structure Expectation where
  parameters : Option (List String) := none
  /-- The entries of the form, where a section reads `section:` and its id. -/
  formContent : Option (List String) := none
  sections : Option (List String) := none
  ruleKinds : Option (List String) := none
  displayName : Option String := none
  submissionRules : Option Nat := none
  /-- Parameters and whether they are required. -/
  required : List (String × Bool) := []
  parameterDisplay : List (String × String) := []
  /-- The groups that may submit; an empty list stands for no restriction. -/
  submitterGroups : Option (List String) := none
  /-- A text that the error message contains. -/
  error : Option String := none
  /-- A pattern that the error message matches. -/
  errorPattern : Option String := none
  /-- A test of the action that the author writes. -/
  custom : Option (ActionType → Bool) := none

namespace Expectation

/-- Whether the step is expected to fail. -/
def expectsError (expectation : Expectation) : Bool :=
  expectation.error.isSome || expectation.errorPattern.isSome

/-! ### Single expectations -/

/-- Accepts a list of texts that is the expected one, if one is expected. -/
def checkTexts (what : String) (expected : Option (List String)) (actual : List String) :
    Except Discrepancy Unit :=
  match expected with
  | none => .ok ()
  | some texts => if texts = actual then .ok () else .error (.otherTexts what texts actual)

/-- Accepts a text that is the expected one. -/
def checkText (what expected actual : String) : Except Discrepancy Unit :=
  if expected = actual then .ok () else .error (.otherText what expected actual)

/-- An entry of a form as expectations write it. -/
def formItemText : FormItem → String
  | .parameter id => id
  | .section id => "section:" ++ id

/-- The parameter of an id. -/
def requireParameter (action : ActionType) (id : String) : Except Discrepancy Parameter :=
  match action.parameter? id with
  | none => .error (.missingParameter id)
  | some parameter => .ok parameter

/-- Accepts an action of the expected shape. -/
def checkShape (expectation : Expectation) (action : ActionType) : Except Discrepancy Unit := do
  checkTexts "parameter ordering" expectation.parameters action.parameterOrdering
  checkTexts "form content ordering" expectation.formContent (action.formContent.map formItemText)
  checkTexts "sections" expectation.sections (action.sections.map (·.id))
  checkTexts "logic rules" expectation.ruleKinds (action.logic.map (·.kindName))
  if let some expected := expectation.displayName then
    checkText "display name" expected action.display.displayName
  if let some expected := expectation.submissionRules then
    let actual := action.validation.actionLevel.length
    if actual ≠ expected then throw (.ruleCount expected actual)

/-- Accepts an action whose parameters are required and shown as expected. -/
def checkParameters (expectation : Expectation) (action : ActionType) :
    Except Discrepancy Unit := do
  expectation.required.forM fun (id, expected) ↦ do
    let parameter ← requireParameter action id
    let actual := parameter.validation.default.requirement.isRequired
    if actual ≠ expected then throw (.requiredness id expected actual)
  expectation.parameterDisplay.forM fun (id, expected) ↦ do
    let parameter ← requireParameter action id
    checkText "parameter display name" expected parameter.displayName

/-! ### Steps -/

/-- Accepts the action of an identifier in a registry if it is as expected. -/
def checkAction (expectation : Expectation) (registry : Registry) (id : Identifier) :
    Except Discrepancy Unit := do
  let some action := registry.actionType? id
    | throw (.notRegistered id)
  if let some accepts := expectation.custom then
    if !accepts action then throw .customFailed
  expectation.checkShape action
  expectation.checkParameters action
  checkTexts "submitter groups" expectation.submitterGroups
    ((registry.permission? id).elim [] (·.submitterGroups))

/-- Accepts the outcome of a step, an action's identifier or an error message, and the registry
that the step leaves. -/
def verify (expectation : Expectation) (patterns : PatternLanguage)
    (outcome : Except String Identifier) (registry : Registry) : Except Discrepancy Unit :=
  match expectation.error, expectation.errorPattern with
  | some expected, _ =>
    match outcome with
    | .error message =>
      if containsText message expected then .ok () else .error (.otherError expected message)
    | .ok _ => .error (.noError expected)
  | none, some pattern => do
    -- A pattern that cannot be read is reported whatever the step did.
    let isMatch ← (patterns.compile pattern).mapError .invalidPattern
    match outcome with
    | .error message =>
      if isMatch message then return else throw (.unmatchedError pattern message)
    | .ok _ => throw (.noMatchingError pattern)
  | none, none =>
    match outcome with
    | .error message => .error (.stepFailed message)
    | .ok id => expectation.checkAction registry id

end Expectation

end Ontology
