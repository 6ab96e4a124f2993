import Ontology.Proofs.Action.Conditions
import Ontology.Action.Layout

/-!
The form of an action. Sections pass one after another as long as their ids and their parameters are
fresh (`compileAll_eq_ok_iff`). A layout that is accepted has one validation for every section, over
declared parameters (`ofDrafts_eq_ok_iff`, `compileValidation_declares`), and what stands in a form
is a parameter of its ordering or one of its sections (`formContent_standsIn`).
-/

set_option autoImplicit false
set_option relaxedAutoImplicit false

namespace Ontology

open Outcome

/-! ### Sections -/

namespace SectionDraft

variable {scope : Scope} {draft : SectionDraft} {validation : SectionValidation}

/-- A validation says of a section when it shows: it has the conditions of the draft in canonical
form, in their order and with their visibilities. -/
structure Shows (scope : Scope) (draft : SectionDraft) (validation : SectionValidation) : Prop where
  sectionId : validation.sectionId = draft.id
  defaultVisibility : validation.defaultVisibility = draft.defaultVisibility
  overrides : List.Forall₂ (fun change override ↦
    change.1.compile scope = .ok override.condition ∧ change.2 = override.visibility)
    draft.overrides validation.overrides

theorem compileValidation_eq_ok_iff :
    draft.compileValidation scope = .ok validation ↔ draft.Shows scope validation := by
  simp only [compileValidation, bind_eq_ok_iff, pure_eq_ok_iff, mapM_eq_ok_iff]
  constructor
  · rintro ⟨overrides, hoverrides, rfl⟩
    refine ⟨rfl, rfl, hoverrides.imp ?_⟩
    rintro change _ ⟨condition, hcondition, rfl⟩
    exact ⟨hcondition, rfl⟩
  · rintro ⟨hid, hvisibility, hoverrides⟩
    refine ⟨validation.overrides, hoverrides.imp ?_, ?_⟩
    · rintro change override ⟨hcondition, hshown⟩
      exact ⟨override.condition, hcondition, by rw [hshown]⟩
    · rw [← hid, ← hvisibility]

/-- The conditions under which a section shows read declared parameters only. -/
theorem compileValidation_declares (h : draft.compileValidation scope = .ok validation) :
    ∀ change ∈ validation.overrides, ∀ id ∈ change.condition.parameters, scope.declares id := by
  intro change hchange
  obtain ⟨_, -, hcondition, -⟩ :=
    exists_of_mem_forall₂ (compileValidation_eq_ok_iff.mp h).overrides hchange
  exact ConditionDraft.compile_declares hcondition

/-- The parameters of a section are placed when none of them repeats another or has been placed
before. -/
theorem place_eq_ok_iff {id : String} {parameters : List String}
    {placed after : List (String × String)} :
    place id placed parameters = .ok after ↔
      Fresh (placed.map (·.1)) parameters ∧
        (parameters.map (·, id)).reverse ++ placed = after := by
  induction parameters generalizing placed with
  | nil => simp [place, Fresh]
  | cons parameter rest ih =>
    have hnone : placed.find? (·.1 = parameter) = none ↔ parameter ∉ placed.map (·.1) := by
      rw [List.find?_eq_none, List.mem_map]
      grind
    rw [place, fresh_cons_iff, ← hnone]
    split
    · next hfound => simp [hfound]
    · next hfound =>
      rw [ih]
      simp [hfound]

/-- Sections pass one after another when their ids are fresh, so are all the parameters that they
hold, and each has its validation. -/
theorem compileAll_eq_ok_iff {earlier : List String} {placed : List (String × String)}
    {drafts : List SectionDraft} {validations : List SectionValidation} :
    compileAll scope earlier placed drafts = .ok validations ↔
      Fresh earlier (drafts.map (·.id)) ∧
      Fresh (placed.map (·.1)) (drafts.flatMap (·.parameters)) ∧
      List.Forall₂ (fun draft validation ↦ draft.compileValidation scope = .ok validation)
        drafts validations := by
  induction drafts generalizing earlier placed validations with
  | nil => simp [compileAll, Fresh, eq_comm]
  | cons draft rest ih =>
    have hkeys : ((draft.parameters.map (·, draft.id)).reverse ++ placed).map (·.1) =
        draft.parameters.reverse ++ placed.map (·.1) := by
      simp [List.map_reverse, Function.comp_def]
    rw [compileAll, List.map_cons, fresh_cons_iff, List.flatMap_cons, fresh_append_iff,
      List.forall₂_cons_left_iff]
    split_ifs with hrepeated
    · simp [hrepeated]
    · simp only [bind_eq_ok_iff, pure_eq_ok_iff, place_eq_ok_iff, ih]
      constructor
      · rintro ⟨_, ⟨hplaced, rfl⟩, validation, hvalidation, others, ⟨hids, hrest, hothers⟩, rfl⟩
        rw [hkeys] at hrest
        exact ⟨⟨hrepeated, hids⟩, ⟨hplaced, hrest⟩, validation, others, hvalidation, hothers, rfl⟩
      · rintro ⟨⟨-, hids⟩, ⟨hplaced, hrest⟩, validation, others, hvalidation, hothers, rfl⟩
        rw [← hkeys] at hrest
        exact ⟨_, ⟨hplaced, rfl⟩, validation, hvalidation, others, ⟨hids, hrest, hothers⟩, rfl⟩

end SectionDraft

namespace SectionLayout

variable {scope : Scope} {ids : List String} {drafts : List SectionDraft} {layout : SectionLayout}

/-- A layout is accepted when its sections hold declared parameters and each of them passes in
turn. -/
theorem ofDrafts_eq_ok_iff :
    ofDrafts scope ids drafts = .ok layout ↔
      (∀ draft ∈ drafts, ∀ id ∈ draft.parameters, id ∈ ids) ∧
        ∃ validations, SectionDraft.compileAll scope [] [] drafts = .ok validations ∧
          ⟨drafts.map (·.build), validations⟩ = layout := by
  simp only [ofDrafts, bind_eq_ok_iff, pure_eq_ok_iff, exists_and_right, exists_unit_eq_ok_iff,
    checkDeclared_eq_ok_iff, List.forall_mem_flatMap, decide_eq_true_eq]

/-- Sections hold declared parameters. -/
theorem mem_of_ofDrafts (h : ofDrafts scope ids drafts = .ok layout) :
    ∀ group ∈ layout.sections, ∀ id ∈ group.parameters, id ∈ ids := by
  obtain ⟨hdeclared, validations, -, rfl⟩ := ofDrafts_eq_ok_iff.mp h
  intro group hgroup
  obtain ⟨draft, hdraft, rfl⟩ := List.mem_map.mp hgroup
  exact hdeclared draft hdraft

/-- The validations go with the sections, one by one. -/
theorem sectionIds_of_ofDrafts (h : ofDrafts scope ids drafts = .ok layout) :
    layout.validations.map (·.sectionId) = layout.sections.map (·.id) := by
  obtain ⟨-, validations, hvalidations, rfl⟩ := ofDrafts_eq_ok_iff.mp h
  rw [List.map_map, ← List.forall₂_eq_eq_eq, List.forall₂_map_left_iff,
    List.forall₂_map_right_iff]
  obtain ⟨-, -, hsections⟩ := SectionDraft.compileAll_eq_ok_iff.mp hvalidations
  exact hsections.flip.imp fun _ _ hvalidation ↦
    (SectionDraft.compileValidation_eq_ok_iff.mp hvalidation).sectionId

/-- Every condition of an accepted layout reads declared parameters only. -/
theorem declares_of_ofDrafts (h : ofDrafts scope ids drafts = .ok layout) :
    ∀ validation ∈ layout.validations, ∀ change ∈ validation.overrides,
      ∀ id ∈ change.condition.parameters, scope.declares id := by
  obtain ⟨-, validations, hvalidations, rfl⟩ := ofDrafts_eq_ok_iff.mp h
  intro validation hvalidation
  obtain ⟨-, -, hsections⟩ := SectionDraft.compileAll_eq_ok_iff.mp hvalidations
  obtain ⟨draft, -, hcompiled⟩ := exists_of_mem_forall₂ hsections hvalidation
  exact SectionDraft.compileValidation_declares hcompiled

end SectionLayout

/-! ### Entries of the form -/

/-- An entry is a parameter of the ordering, or one of the sections. -/
def FormItem.StandsIn (sections : List FormSection) (ordering : List String) : FormItem → Prop
  | .parameter id => id ∈ ordering
  | .section id => id ∈ sections.map (·.id)

variable {sections : List FormSection} {ordering placed : List String} {item : FormItem}

/-- A parameter has no section when none holds it. -/
theorem sectionOf?_eq_none_iff {parameter : String} :
    sectionOf? sections parameter = none ↔ ∀ group ∈ sections, parameter ∉ group.parameters := by
  rw [sectionOf?, Option.map_eq_none_iff, List.find?_eq_none]
  simp

/-- The section of a parameter holds it. -/
theorem exists_of_sectionOf? {parameter id : String} (h : sectionOf? sections parameter = some id) :
    ∃ group ∈ sections, parameter ∈ group.parameters ∧ group.id = id := by
  rw [sectionOf?, Option.map_eq_some_iff] at h
  obtain ⟨group, hgroup, hid⟩ := h
  refine ⟨group, List.mem_reverse.mp (List.mem_of_find?_eq_some hgroup), ?_, hid⟩
  simpa using List.find?_some hgroup

theorem mem_of_sectionOf? {parameter id : String} (h : sectionOf? sections parameter = some id) :
    id ∈ sections.map (·.id) := by
  obtain ⟨group, hgroup, -, rfl⟩ := exists_of_sectionOf? h
  exact List.mem_map_of_mem hgroup

theorem FormItem.StandsIn.cons {parameter : String} (h : item.StandsIn sections ordering) :
    item.StandsIn sections (parameter :: ordering) := by
  cases item with
  | parameter id => exact List.mem_cons_of_mem parameter h
  | «section» id => exact h

/-- What is placed comes from the ordering or from the sections, whatever has been placed before. -/
theorem placeParameters_standsIn (h : item ∈ placeParameters sections placed ordering) :
    item.StandsIn sections ordering := by
  induction ordering generalizing placed with
  | nil => simp [placeParameters] at h
  | cons parameter rest ih =>
    rw [placeParameters] at h
    split at h
    · rcases List.mem_cons.mp h with rfl | hrest
      · exact List.mem_cons_self
      · exact (ih hrest).cons
    · next id hid =>
      split_ifs at h with hplaced
      · exact (ih h).cons
      · rcases List.mem_cons.mp h with rfl | hrest
        · exact mem_of_sectionOf? hid
        · exact (ih hrest).cons

/-- Every entry of a form is a parameter of its ordering or one of its sections. -/
theorem formContent_standsIn (h : item ∈ formContent sections ordering) :
    item.StandsIn sections ordering := by
  rw [formContent, List.mem_append] at h
  rcases h with hplaced | hrest
  · exact placeParameters_standsIn hplaced
  · obtain ⟨group, hgroup, rfl⟩ := List.mem_map.mp (List.mem_filter.mp hrest).1
    exact List.mem_map_of_mem hgroup

end Ontology
