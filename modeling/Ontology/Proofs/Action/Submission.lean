import Ontology.Proofs.Action.Elaboration
import Ontology.Definition.Action

/-!
Who may submit a compiled action. The groups that a definition names appear twice: in the
restriction beside the action (`ActionFrame.permission_eq_some_iff`) and as the last rule on its
submission (`ActionFrame.getLast?_submissionRules`). `ActionDefinition.compile_submission` collects
what a compilation settles about this, and `ActionDefinition.permission?_register` says what
registering the action does to the restrictions.
-/

set_option autoImplicit false
set_option relaxedAutoImplicit false

namespace Ontology

open Outcome

/-- The rule that lets the members of some groups submit. -/
def SubmissionRule.ofGroups (groups : List String) : SubmissionRule :=
  ⟨.any (groups.map .memberOf), notSubmitterMessage⟩

/-! ### Restrictions and rules -/

namespace ActionFrame

variable {frame : ActionFrame} {id : Identifier} {scope : Scope} {rules : List SubmissionRule}
  {permission : ActionPermission}

/-- Submission is restricted to the groups, if there are any. -/
theorem permission_eq_some_iff :
    frame.permission id = some permission ↔
      frame.submitterGroups ≠ [] ∧ permission = ⟨id, frame.submitterGroups⟩ := by
  unfold ActionFrame.permission
  split
  · next hgroups => simp [hgroups]
  · next group rest hgroups => simp [hgroups, eq_comm]

/-- There is always a rule on the submission. -/
theorem submissionRules_ne_nil (h : frame.submissionRules scope = .ok rules) : rules ≠ [] := by
  rw [submissionRules, bind_eq_ok_iff] at h
  obtain ⟨declared, -, h⟩ := h
  split at h <;> cases h <;> simp

/-- When there are groups, the last rule lets their members submit. -/
theorem getLast?_submissionRules (h : frame.submissionRules scope = .ok rules)
    (hgroups : frame.submitterGroups ≠ []) :
    rules.getLast? = some (.ofGroups frame.submitterGroups) := by
  have hrules : frame.submitterRules = [.ofGroups frame.submitterGroups] := by
    unfold submitterRules
    split
    · next hnone => exact absurd hnone hgroups
    · next group rest heq => rw [heq, SubmissionRule.ofGroups]
  rw [submissionRules, bind_eq_ok_iff, hrules] at h
  obtain ⟨declared, -, h⟩ := h
  split at h
  · next hnil => simp at hnil
  · next heq =>
    cases h
    rw [← heq, List.getLast?_append, List.getLast?_singleton, Option.some_or]

end ActionFrame

/-! ### Compiled actions -/

/-- What a compilation settles about the submission of an action: the restriction and the last rule
name the groups of the definition, and there is some rule in any case. -/
theorem ActionDefinition.compile_submission {registry : Registry} {definition : ActionDefinition}
    {compiled : CompiledAction} (h : definition.compile registry = .ok compiled) :
    compiled.actionType.id = definition.id ∧
      compiled.permission = definition.frame.permission definition.id ∧
      compiled.actionType.validation.actionLevel ≠ [] ∧
      (definition.frame.submitterGroups ≠ [] →
        compiled.actionType.validation.actionLevel.getLast? =
          some (.ofGroups definition.frame.submitterGroups)) := by
  obtain ⟨elaboration, -, ordering, -, hassemble⟩ := compile_eq_ok_iff.mp h
  obtain ⟨layout, -, submission, hsubmission, rfl⟩ := ActionFrame.assemble_eq_ok_iff.mp hassemble
  exact ⟨rfl, rfl, ActionFrame.submissionRules_ne_nil hsubmission,
    ActionFrame.getLast?_submissionRules hsubmission⟩

namespace CompiledAction

variable {registry : Registry} {compiled : CompiledAction}

theorem register_defined :
    (compiled.register registry).defined =
      registry.defined.insert (.actionType compiled.actionType) := by
  unfold register
  split <;> rfl

theorem register_imported : (compiled.register registry).imported = registry.imported := by
  unfold register
  split <;> rfl

end CompiledAction

/-- Registering a compiled action settles its own restriction and leaves the others. -/
theorem ActionDefinition.permission?_register {registry : Registry} {definition : ActionDefinition}
    {compiled : CompiledAction} (h : definition.compile registry = .ok compiled) (id : Identifier) :
    (compiled.register registry).permission? id =
      if id = definition.id then definition.frame.permission id else registry.permission? id := by
  obtain ⟨hid, hpermission, -, -⟩ := compile_submission h
  unfold CompiledAction.register
  cases hrestricted : compiled.permission with
  | none =>
    refine (Table.get?_erase _ _ _).trans ?_
    rw [hid]
    split_ifs with hsame
    · rw [hsame, ← hpermission, hrestricted]
    · rfl
  | some permission =>
    obtain ⟨-, rfl⟩ := ActionFrame.permission_eq_some_iff.mp (hpermission.symm.trans hrestricted)
    refine (Table.get?_insert _ _ _ _).trans ?_
    split_ifs with hsame
    · rw [hsame, ← hpermission, hrestricted]
    · rfl

end Ontology
