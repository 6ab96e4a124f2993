import Ontology.Proofs.Registry.Frame
import Ontology.Proofs.Session.Runs
import Ontology.Scenario.Fixture

/-!
Who may submit the actions of a session, over whatever is done in it. The groups that may submit an
action stand in two places, in a restriction beside the action and in its last rule on submissions,
and both are written anew with every definition of the action. `Session.LatestAction` tells which
definition counts: the last one under an identifier that was accepted, unless there was a reset
since. What the registry holds under the identifier is what this definition has put there
(`LatestAction.governs`), and without such a definition it holds nothing
(`vacant_of_not_latestAction`). So the two places always agree (`permission?_performAll`).
-/

set_option autoImplicit false
set_option relaxedAutoImplicit false

namespace Ontology

open Outcome

/-! ### Identifiers of actions -/

namespace Registry

/-- A definition governs its identifier: the restriction is the one that it asks for, and its action
has a rule on submissions, the last of which names its groups if it has any. -/
structure GovernedBy (registry : Registry) (action : ActionDefinition) : Prop where
  permission : registry.permission? action.id = action.frame.permission action.id
  exists_rules : ∃ type, registry.defined.actionTypes.get? action.id = some type ∧
    type.validation.actionLevel ≠ [] ∧
    (action.frame.submitterGroups ≠ [] →
      type.validation.actionLevel.getLast? = some (.ofGroups action.frame.submitterGroups))

/-- The session has no action of an identifier, nor a restriction for one. -/
structure Vacant (registry : Registry) (id : Identifier) : Prop where
  permission : registry.permission? id = none
  action : registry.defined.actionTypes.get? id = none

/-- Two registries hold the same action under an identifier, with the same restriction. -/
structure SameAt (before after : Registry) (id : Identifier) : Prop where
  permission : after.permission? id = before.permission? id
  action : after.defined.actionTypes.get? id = before.defined.actionTypes.get? id

variable {before after : Registry} {id : Identifier}

theorem vacant_empty : Registry.empty.Vacant id := ⟨rfl, rfl⟩

theorem GovernedBy.congr {action : ActionDefinition} (h : before.GovernedBy action)
    (hsame : before.SameAt after action.id) : after.GovernedBy action where
  permission := hsame.permission.trans h.permission
  exists_rules := hsame.action ▸ h.exists_rules

theorem Vacant.congr (h : before.Vacant id) (hsame : before.SameAt after id) : after.Vacant id :=
  ⟨hsame.permission.trans h.permission, hsame.action.trans h.action⟩

end Registry

/-- Registering a compiled action makes its definition govern the identifier. -/
theorem ActionDefinition.governs_register {registry : Registry} {action : ActionDefinition}
    {compiled : CompiledAction} (h : action.compile registry = .ok compiled) :
    (compiled.register registry).GovernedBy action where
  permission := by rw [permission?_register h, if_pos rfl]
  exists_rules := by
    obtain ⟨hid, -, hrules⟩ := compile_submission h
    refine ⟨compiled.actionType, ?_, hrules⟩
    rw [CompiledAction.register_defined]
    exact (Table.get?_insert _ _ _ _).trans (if_pos hid.symm)

namespace Session

/-! ### Operations -/

/-- An operation defines an action: it describes the action, and it is accepted. -/
inductive Defines (session : Session) : Operation → ActionDefinition → Prop
  | intro {definition : Definition} {action : ActionDefinition} {next : Session}
      (haction : definition.action? session.policy = some action)
      (haccepted : session.define definition = .ok next) :
      Defines session (.define definition) action

variable {session start : Session} {operation : Operation} {operations : List Operation}
  {action : ActionDefinition} {id : Identifier}

/-- An action that is defined governs its identifier. -/
theorem Defines.governs (h : session.Defines operation action) :
    (session.perform operation).registry.GovernedBy action := by
  obtain ⟨haction, haccepted⟩ := h
  rw [perform_define haccepted]
  obtain ⟨registry, happly, rfl⟩ := define_eq_ok_iff.mp haccepted
  obtain ⟨compiled, hcompile, rfl⟩ := Definition.exists_compiled_of_apply haction happly
  exact ActionDefinition.governs_register hcompile

/-- What is under an identifier stays unless the session is reset or an action is defined there. -/
theorem sameAt_perform (hreset : operation ≠ .reset)
    (hother : ∀ action, session.Defines operation action → action.id ≠ id) :
    session.registry.SameAt (session.perform operation).registry id := by
  cases operation with
  | reset => exact absurd rfl hreset
  | addImported entity => exact ⟨rfl, rfl⟩
  | define definition =>
    cases haccepted : session.define definition with
    | error error =>
      rw [perform_refused haccepted]
      exact ⟨rfl, rfl⟩
    | ok next =>
      rw [perform_define haccepted]
      obtain ⟨registry, happly, rfl⟩ := define_eq_ok_iff.mp haccepted
      have hframe := Definition.frame_of_apply happly
      -- The identifier is not the one that the definition is for, or it would be an action there.
      have hself : ¬ (definition.kind = .actionType ∧ id = definition.id session.policy) := by
        rintro ⟨hkind, rfl⟩
        obtain ⟨action, haction⟩ := Definition.exists_action? session.policy hkind
        exact hother action ⟨haction, haccepted⟩ (Definition.id_of_action? haction).2
      refine ⟨hframe.permissions id hself, ?_⟩
      have hfind := hframe.defined .actionType id (fun h ↦ hself ⟨h.1.symm, h.2⟩) (nomatch ·.1)
      exact Option.map_injective (fun _ _ ↦ Entity.actionType.inj) hfind

/-! ### Runs -/

/-- The last action that operations define under an identifier, if there is no reset after it. -/
inductive LatestAction (start : Session) (id : Identifier) :
    List Operation → ActionDefinition → Prop
  | defined {operations : List Operation} {operation : Operation} {action : ActionDefinition}
      (hdefines : (start.performAll operations).Defines operation action) (hid : action.id = id) :
      LatestAction start id (operations ++ [operation]) action
  | later {operations : List Operation} {operation : Operation} {action : ActionDefinition}
      (hlatest : LatestAction start id operations action) (hreset : operation ≠ .reset)
      (hother : ∀ other, (start.performAll operations).Defines operation other → other.id ≠ id) :
      LatestAction start id (operations ++ [operation]) action

theorem LatestAction.id_eq (h : start.LatestAction id operations action) : action.id = id := by
  induction h with
  | defined _ hid => exact hid
  | later _ _ _ ih => exact ih

theorem not_latestAction_nil : ¬ start.LatestAction id [] action := by
  intro h
  generalize hrun : ([] : List Operation) = operations at h
  cases h <;> simp at hrun

/-- What is the latest action after one more operation depends on what this operation does. -/
theorem latestAction_concat_iff :
    start.LatestAction id (operations ++ [operation]) action ↔
      (start.performAll operations).Defines operation action ∧ action.id = id ∨
        start.LatestAction id operations action ∧ operation ≠ .reset ∧
          ∀ other, (start.performAll operations).Defines operation other → other.id ≠ id := by
  constructor
  · intro h
    generalize hrun : operations ++ [operation] = run at h
    cases h with
    | defined hdefines hid =>
      obtain ⟨rfl, ⟨⟩⟩ := List.append_inj' hrun rfl
      exact .inl ⟨hdefines, hid⟩
    | later hlatest hreset hother =>
      obtain ⟨rfl, ⟨⟩⟩ := List.append_inj' hrun rfl
      exact .inr ⟨hlatest, hreset, hother⟩
  · rintro (⟨hdefines, hid⟩ | ⟨hlatest, hreset, hother⟩)
    · exact .defined hdefines hid
    · exact .later hlatest hreset hother

theorem Defines.unique {other : ActionDefinition} (h : session.Defines operation action)
    (hother : session.Defines operation other) : action = other := by
  obtain ⟨haction, -⟩ := h
  obtain ⟨hsame, -⟩ := hother
  exact Option.some.inj (haction.symm.trans hsame)

/-- There is at most one latest action. -/
theorem LatestAction.unique {other : ActionDefinition}
    (h : start.LatestAction id operations action)
    (hother : start.LatestAction id operations other) : action = other := by
  induction operations using List.reverseRecOn with
  | nil => exact absurd h not_latestAction_nil
  | append_singleton operations operation ih =>
    rcases latestAction_concat_iff.mp h, latestAction_concat_iff.mp hother with
      ⟨⟨hdefines, hid⟩ | ⟨hlatest, -, hnone⟩, ⟨hdefines', hid'⟩ | ⟨hlatest', -, hnone'⟩⟩
    · exact hdefines.unique hdefines'
    · exact absurd hid (hnone' action hdefines)
    · exact absurd hid' (hnone other hdefines')
    · exact ih hlatest hlatest'

/-- The latest action of an identifier governs it. -/
theorem LatestAction.governs (h : start.LatestAction id operations action) :
    (start.performAll operations).registry.GovernedBy action := by
  induction h with
  | defined hdefines =>
    rw [performAll_concat]
    exact hdefines.governs
  | later hlatest hreset hother ih =>
    rw [performAll_concat]
    -- The operation leaves the identifier alone, so what held before it still does.
    exact ih.congr (hlatest.id_eq ▸ sameAt_perform hreset hother)

/-- An identifier with a latest action has the rules of this action. -/
theorem LatestAction.exists_rules (h : start.LatestAction id operations action) :
    ∃ type, (start.performAll operations).registry.defined.actionTypes.get? id = some type ∧
      type.validation.actionLevel ≠ [] ∧
      (action.frame.submitterGroups ≠ [] →
        type.validation.actionLevel.getLast? = some (.ofGroups action.frame.submitterGroups)) :=
  h.id_eq ▸ h.governs.exists_rules

theorem LatestAction.permission?_eq_some_iff {permission : ActionPermission}
    (h : start.LatestAction id operations action) :
    (start.performAll operations).registry.permission? id = some permission ↔
      action.frame.submitterGroups ≠ [] ∧ permission = ⟨id, action.frame.submitterGroups⟩ := by
  obtain rfl := h.id_eq
  rw [h.governs.permission, ActionFrame.permission_eq_some_iff]

/-- Nothing is under an identifier that has no latest action. -/
theorem vacant_of_not_latestAction (hstart : start.registry = .empty)
    (hnone : ∀ action, ¬ start.LatestAction id operations action) :
    (start.performAll operations).registry.Vacant id := by
  induction operations using List.reverseRecOn with
  | nil =>
    rw [performAll, List.foldl_nil, hstart]
    exact Registry.vacant_empty
  | append_singleton operations operation ih =>
    rw [performAll_concat]
    by_cases hreset : operation = .reset
    · rw [hreset]
      exact Registry.vacant_empty
    · have hother : ∀ other, (start.performAll operations).Defines operation other →
          other.id ≠ id :=
        fun other hdefines hid ↦ hnone other (.defined hdefines hid)
      have hbefore : ∀ action, ¬ start.LatestAction id operations action :=
        fun action hlatest ↦ hnone action (.later hlatest hreset hother)
      exact (ih hbefore).congr (sameAt_perform hreset hother)

/-- Whatever is done in a fresh session, a restriction is in force for an identifier exactly when
the latest action there names groups, and it names the same. The session then has this action, and
its last rule on submissions lets the members of these groups submit. Every action of the session
has some rule on submissions. -/
theorem permission?_performAll {options : SessionOptions} (hstart : Session.start options = .ok start)
    (operations : List Operation) (id : Identifier) :
    (∀ permission, (start.performAll operations).registry.permission? id = some permission ↔
      ∃ action, start.LatestAction id operations action ∧ action.frame.submitterGroups ≠ [] ∧
        permission = ⟨id, action.frame.submitterGroups⟩) ∧
    (∀ permission, (start.performAll operations).registry.permission? id = some permission →
      ∃ type, (start.performAll operations).registry.defined.actionTypes.get? id = some type ∧
        type.validation.actionLevel.getLast? = some (.ofGroups permission.submitterGroups)) ∧
    ∀ type, (start.performAll operations).registry.defined.actionTypes.get? id = some type →
      type.validation.actionLevel ≠ [] := by
  have hcases : (∃ action, start.LatestAction id operations action) ∨
      (start.performAll operations).registry.Vacant id := by
    by_cases hlatest : ∃ action, start.LatestAction id operations action
    · exact .inl hlatest
    · exact .inr (vacant_of_not_latestAction (of_start hstart).1 (not_exists.mp hlatest))
  refine ⟨fun permission ↦ ⟨?_, ?_⟩, ?_, ?_⟩
  · intro hpermission
    obtain ⟨action, hlatest⟩ | hvacant := hcases
    · exact ⟨action, hlatest, hlatest.permission?_eq_some_iff.mp hpermission⟩
    · cases hvacant.permission.symm.trans hpermission
  · rintro ⟨action, hlatest, hgroups⟩
    exact hlatest.permission?_eq_some_iff.mpr hgroups
  · intro permission hpermission
    obtain ⟨action, hlatest⟩ | hvacant := hcases
    · obtain ⟨hgroups, rfl⟩ := hlatest.permission?_eq_some_iff.mp hpermission
      obtain ⟨type, htype, -, hlast⟩ := hlatest.exists_rules
      exact ⟨type, htype, hlast hgroups⟩
    · cases hvacant.permission.symm.trans hpermission
  · intro type htype
    obtain ⟨action, hlatest⟩ | hvacant := hcases
    · obtain ⟨found, hfound, hrules, -⟩ := hlatest.exists_rules
      rwa [Option.some.inj (htype.symm.trans hfound)]
    · cases hvacant.action.symm.trans htype

end Session

/-- An action that deletes a `foo`, for the members of some groups. -/
def Fixture.deleteFoo (submitterGroups : List String) : CrudDraft where
  kind := .delete
  target := .object (.auto "foo")
  submitterGroups

/-- A run that lets administrators delete a `foo`, and then fails to let everyone do so: the second
definition of the action orders a parameter that it does not have. -/
def Fixture.guardedFoo : List Session.Operation :=
  foo.map .define ++
    [.define (.generatedAction (deleteFoo ["admins"])),
      .define (.generatedAction { deleteFoo [] with ordering := some ["bar"] })]

namespace Session

/-- A definition that is refused keeps the restriction and the rule of the one before it. -/
theorem permission?_performAll_guardedFoo :
    ∃ start, Session.start { qualifier := "com.example" } = .ok start ∧
      (∃ action, start.LatestAction ⟨"com.example.delete-object-foo"⟩ Fixture.guardedFoo action ∧
        action.frame.submitterGroups = ["admins"]) ∧
      ∃ type, (start.performAll Fixture.guardedFoo).registry.defined.actionTypes.get?
          ⟨"com.example.delete-object-foo"⟩ = some type ∧
        type.validation.actionLevel.getLast? = some (.ofGroups ["admins"]) := by
  have hcomputed : (Session.start { qualifier := "com.example" }).toOption.map (fun start ↦
      (start.performAll Fixture.guardedFoo).registry.permission?
        ⟨"com.example.delete-object-foo"⟩) =
      some (some ⟨⟨"com.example.delete-object-foo"⟩, ["admins"]⟩) := by
    decide +kernel
  obtain ⟨start, hstart, hpermission⟩ := exists_of_toOption_map hcomputed
  obtain ⟨hrestricted, hrule, -⟩ := permission?_performAll hstart Fixture.guardedFoo
    ⟨"com.example.delete-object-foo"⟩
  obtain ⟨action, hlatest, -, hgroups⟩ := (hrestricted _).mp hpermission
  have hnamed : action.frame.submitterGroups = ["admins"] :=
    (congrArg (·.submitterGroups) hgroups).symm
  exact ⟨start, hstart, ⟨action, hlatest, hnamed⟩, hrule _ hpermission⟩

end Session

end Ontology
