import Ontology.Proofs.Action.Layout
import Ontology.Scenario.Fixture

/-!
Which sections make up a form. They hold declared parameters, no two of them have one id, no
parameter stands in two places, and the conditions under which they show compile
(`SectionDraft.Consistent`). Exactly such sections are accepted, and what comes out are the sections
in their order with a validation each. Where a section holds parameters that are not declared, these
are the error, whatever else is wrong (`SectionLayout.ofDrafts_iff_consistent`).
-/

set_option autoImplicit false
set_option relaxedAutoImplicit false

namespace Ontology

open Outcome

/-! ### Consistent sections -/

namespace SectionDraft

/-- The parameters that sections hold, in their order. -/
def placedParameters (drafts : List SectionDraft) : List String := drafts.flatMap (·.parameters)

/-- Sections can stand in one form together. -/
structure Consistent (scope : Scope) (ids : List String) (drafts : List SectionDraft) : Prop where
  declared : ∀ id ∈ placedParameters drafts, id ∈ ids
  idsDiffer : (drafts.map (·.id)).Nodup
  placedOnce : (placedParameters drafts).Nodup
  compiles : ∀ draft ∈ drafts, ∀ change ∈ draft.overrides,
    ∃ condition, change.1.compile scope = .ok condition

variable {scope : Scope} {draft : SectionDraft}

/-- It can be said when a section shows if all its conditions compile. -/
theorem exists_shows_iff :
    (∃ validation, draft.Shows scope validation) ↔
      ∀ change ∈ draft.overrides, ∃ condition, change.1.compile scope = .ok condition := by
  constructor
  · rintro ⟨validation, hshows⟩ change hchange
    obtain ⟨override, -, hcondition, -⟩ := exists_of_mem_forall₂ hshows.overrides.flip hchange
    exact ⟨override.condition, hcondition⟩
  · intro hcompiles
    have hoverride : ∀ change ∈ draft.overrides, ∃ override : SectionOverride,
        change.1.compile scope = .ok override.condition ∧ change.2 = override.visibility := by
      intro change hchange
      obtain ⟨condition, hcondition⟩ := hcompiles change hchange
      exact ⟨⟨condition, change.2⟩, hcondition, rfl⟩
    obtain ⟨overrides, hoverrides⟩ := exists_forall₂ hoverride
    exact ⟨⟨draft.id, draft.defaultVisibility, overrides⟩, rfl, rfl, hoverrides⟩

/-- A form has a section as it is drafted. -/
structure Builds (draft : SectionDraft) (group : FormSection) : Prop where
  id : group.id = draft.id
  displayName : group.displayName = draft.displayName.getD draft.id
  description : group.description = draft.description
  collapsedByDefault : group.collapsedByDefault = draft.collapsedByDefault
  parameters : group.parameters = draft.parameters

end SectionDraft

/-! ### Accepted layouts -/

namespace SectionLayout

variable {scope : Scope} {ids : List String} {drafts : List SectionDraft} {layout : SectionLayout}

/-- A layout holds the sections that are drafted, with a validation for each. -/
theorem ofDrafts_eq_ok_iff_shows :
    ofDrafts scope ids drafts = .ok layout ↔
      (∀ id ∈ SectionDraft.placedParameters drafts, id ∈ ids) ∧
      (drafts.map (·.id)).Nodup ∧ (SectionDraft.placedParameters drafts).Nodup ∧
      drafts.map (·.build) = layout.sections ∧
      List.Forall₂ (·.Shows scope) drafts layout.validations := by
  rw [ofDrafts_eq_ok_iff, SectionDraft.placedParameters, List.forall_mem_flatMap]
  simp only [SectionDraft.compileAll_eq_ok_iff, SectionDraft.compileValidation_eq_ok_iff,
    List.map_nil, fresh_nil_iff]
  constructor
  · rintro ⟨hdeclared, validations, ⟨hids, hparameters, hshows⟩, rfl⟩
    exact ⟨hdeclared, hids, hparameters, rfl, hshows⟩
  · rintro ⟨hdeclared, hids, hparameters, hsections, hshows⟩
    exact ⟨hdeclared, layout.validations, ⟨hids, hparameters, hshows⟩, by rw [hsections]⟩

theorem exists_ofDrafts_iff :
    (∃ layout, ofDrafts scope ids drafts = .ok layout) ↔
      SectionDraft.Consistent scope ids drafts := by
  simp only [ofDrafts_eq_ok_iff_shows]
  constructor
  · rintro ⟨layout, hdeclared, hids, hparameters, -, hshows⟩
    refine ⟨hdeclared, hids, hparameters, fun draft hdraft ↦ ?_⟩
    obtain ⟨validation, -, hvalidation⟩ := exists_of_mem_forall₂ hshows.flip hdraft
    exact SectionDraft.exists_shows_iff.mp ⟨validation, hvalidation⟩
  · rintro ⟨hdeclared, hids, hparameters, hcompiles⟩
    obtain ⟨validations, hvalidations⟩ := exists_forall₂ fun draft hdraft ↦
      SectionDraft.exists_shows_iff.mpr (hcompiles draft hdraft)
    exact ⟨⟨drafts.map (·.build), validations⟩, hdeclared, hids, hparameters, rfl, hvalidations⟩

/-- Parameters that are not declared are all reported, before anything else is looked at. -/
theorem ofDrafts_eq_error (h : ∃ id ∈ SectionDraft.placedParameters drafts, id ∉ ids) :
    ofDrafts scope ids drafts = .error
      (.undefinedParameters (undeclared (· ∈ ids) (SectionDraft.placedParameters drafts))) := by
  have hcheck : checkDeclared (· ∈ ids) (SectionDraft.placedParameters drafts) = _ :=
    checkDeclared_eq_error (by simpa using h)
  rw [ofDrafts, bind_eq_error_iff]
  exact .inl hcheck

/-- A form accepts consistent sections and no others. It has them in their order, each as it is
drafted and with a validation of its own. Once a section holds a parameter that is not declared, the
error lists all such parameters, each once and in the order of their first mention. -/
theorem ofDrafts_iff_consistent (scope : Scope) (ids : List String) (drafts : List SectionDraft) :
    ((∃ layout, ofDrafts scope ids drafts = .ok layout) ↔
      SectionDraft.Consistent scope ids drafts) ∧
    (∀ layout, ofDrafts scope ids drafts = .ok layout →
      List.Forall₂ SectionDraft.Builds drafts layout.sections ∧
        List.Forall₂ (·.Shows scope) drafts layout.validations) ∧
    ((∃ id ∈ SectionDraft.placedParameters drafts, id ∉ ids) →
      ∃ undefined, ofDrafts scope ids drafts = .error (.undefinedParameters undefined) ∧
        FirstMentions (SectionDraft.placedParameters drafts) (· ∉ ids) undefined) := by
  refine ⟨exists_ofDrafts_iff, fun layout hlayout ↦ ?_, fun hundeclared ↦ ?_⟩
  · obtain ⟨-, -, -, hsections, hshows⟩ := ofDrafts_eq_ok_iff_shows.mp hlayout
    refine ⟨?_, hshows⟩
    rw [← hsections, List.forall₂_map_right_iff, List.forall₂_same]
    exact fun draft _ ↦ ⟨rfl, rfl, rfl, rfl, rfl⟩
  · refine ⟨_, ofDrafts_eq_error hundeclared, ?_⟩
    simpa using firstMentions_undeclared (fun id ↦ decide (id ∈ ids))
      (SectionDraft.placedParameters drafts)

end SectionLayout

/-- Sections of a form on tickets. The people of a ticket show while its priority is above a
threshold. -/
def Fixture.triageSections (people : List String) : List SectionDraft :=
  [{ id := "summary", parameters := ["priority", "tags"] },
    { id := "people"
      parameters := people
      defaultVisibility := .hidden
      overrides := [(.parameter "priority" .greaterThan (.literal (.integer 3)), .visible)] }]

namespace SectionLayout

/-- The people of a ticket can have a section of their own. Of two people who are no parameters
both are reported, although a parameter of the other section stands between them once more. -/
theorem ofDrafts_iff_consistent_triage :
    (∃ layout,
      ofDrafts Fixture.triage ["priority", "owner", "tags"] (Fixture.triageSections ["owner"]) =
          .ok layout ∧
        List.Forall₂ SectionDraft.Builds (Fixture.triageSections ["owner"]) layout.sections ∧
        List.Forall₂ (·.Shows Fixture.triage) (Fixture.triageSections ["owner"])
          layout.validations) ∧
    ∃ undefined,
      ofDrafts Fixture.triage ["priority", "owner", "tags"]
          (Fixture.triageSections ["watcher", "tags", "approver", "watcher"]) =
        .error (.undefinedParameters undefined) ∧
      FirstMentions ["priority", "tags", "watcher", "tags", "approver", "watcher"]
        (· ∉ ["priority", "owner", "tags"]) undefined := by
  have hconsistent : SectionDraft.Consistent Fixture.triage ["priority", "owner", "tags"]
      (Fixture.triageSections ["owner"]) := by
    refine ⟨by decide, by decide, by decide, ?_⟩
    intro draft hdraft change hchange
    simp only [Fixture.triageSections, List.mem_cons, List.not_mem_nil, or_false] at hdraft
    rcases hdraft with rfl | rfl
    · cases hchange
    · cases List.mem_singleton.mp hchange
      exact ⟨_, rfl⟩
  obtain ⟨haccepts, hlayout, -⟩ := ofDrafts_iff_consistent Fixture.triage
    ["priority", "owner", "tags"] (Fixture.triageSections ["owner"])
  obtain ⟨layout, hok⟩ := haccepts.mpr hconsistent
  obtain ⟨-, -, hundeclared⟩ := ofDrafts_iff_consistent Fixture.triage
    ["priority", "owner", "tags"]
    (Fixture.triageSections ["watcher", "tags", "approver", "watcher"])
  exact ⟨⟨layout, hok, hlayout layout hok⟩, hundeclared ⟨"watcher", by decide, by decide⟩⟩

end SectionLayout

end Ontology
