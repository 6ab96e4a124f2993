import Mathlib.Data.List.Pairwise
import Ontology.Proofs.Action.SectionLayouts

/-!
What stands in a form. Every parameter of the ordering comes into the form, with the section that
holds it or by itself (`FormItem.Brings`). The entries of the form are what the parameters bring,
where only the first of several mentions of a section is kept, and then the sections without
parameters (`formContent_eq`). So over an accepted layout nothing is lost and nothing is shown
twice, however the ordering scatters the parameters of a section (`formContent_covers`).
-/

set_option autoImplicit false
set_option relaxedAutoImplicit false

namespace Ontology

/-- What is left after later repetitions are dropped does not repeat. The predicate takes the items
that have been met already. -/
theorem nodup_eraseDups_filter {α : Type} [DecidableEq α] (p : α → Bool) (items : List α) :
    (items.filter p).eraseDups.Nodup := by
  induction items generalizing p with
  | nil => exact .nil
  | cons item rest ih =>
    rw [List.filter_cons]
    split_ifs with hitem
    · rw [List.eraseDups_cons, List.filter_filter, List.nodup_cons]
      refine ⟨?_, ih _⟩
      simp [List.mem_eraseDups]
    · exact ih p

/-! ### What parameters bring -/

/-- A parameter comes into a form with a section that holds it, or by itself if none does. -/
def FormItem.Brings (sections : List FormSection) (parameter : String) : FormItem → Prop
  | .section id => ∃ group ∈ sections, parameter ∈ group.parameters ∧ group.id = id
  | .parameter id => id = parameter ∧ ∀ group ∈ sections, parameter ∉ group.parameters

/-- The entry that a parameter brings into a form. -/
def entryOf (sections : List FormSection) (parameter : String) : FormItem :=
  match sectionOf? sections parameter with
  | none => .parameter parameter
  | some id => .section id

section Entries

variable {sections : List FormSection} {ordering placed : List String} {parameter id : String}

theorem brings_entryOf : FormItem.Brings sections parameter (entryOf sections parameter) := by
  unfold entryOf
  split
  · next hnone => exact ⟨rfl, sectionOf?_eq_none_iff.mp hnone⟩
  · next id hsome => exact exists_of_sectionOf? hsome

/-- Only a parameter itself brings an entry of its own. -/
theorem eq_of_entryOf (h : entryOf sections parameter = .parameter id) : parameter = id := by
  unfold entryOf at h
  split at h
  · exact FormItem.parameter.inj h
  · cases h

/-- Parameters in an ordering place the entries that they bring, without those of the sections that
have been placed before. -/
theorem placeParameters_eq (hordering : ordering.Nodup) :
    placeParameters sections placed ordering =
      ((ordering.map (entryOf sections)).filter (· ∉ placed.map .section)).eraseDups := by
  induction ordering generalizing placed with
  | nil => rfl
  | cons parameter rest ih =>
    obtain ⟨hfresh, hrest⟩ := List.nodup_cons.mp hordering
    rw [placeParameters, List.map_cons, List.filter_cons]
    cases hsection : sectionOf? sections parameter with
    | none =>
      have hentry : entryOf sections parameter = .parameter parameter := by
        rw [entryOf, hsection]
      have hkept : ∀ item ∈ (rest.map (entryOf sections)).filter (· ∉ placed.map .section),
          !item == .parameter parameter := by
        intro item hitem
        obtain ⟨other, hother, rfl⟩ := List.mem_map.mp (List.mem_filter.mp hitem).1
        have hne : entryOf sections other ≠ .parameter parameter :=
          fun hsame ↦ hfresh (eq_of_entryOf hsame ▸ hother)
        simpa using hne
      rw [hentry, if_pos (by simp), List.eraseDups_cons, List.filter_eq_self.mpr hkept]
      exact congrArg _ (ih hrest)
    | some id =>
      have hentry : entryOf sections parameter = .section id := by
        rw [entryOf, hsection]
      rw [hentry]
      dsimp only
      by_cases hplaced : id ∈ placed
      · rw [if_pos hplaced, if_neg (by simpa using hplaced), ih hrest]
      · rw [if_neg hplaced, if_pos (by simpa using hplaced), List.eraseDups_cons,
          List.filter_filter, ih hrest]
        congr 2
        refine List.filter_congr fun item _ ↦ ?_
        rw [List.map_cons, Bool.eq_iff_iff]
        simp

end Entries

/-! ### Sections over an ordering -/

/-- Sections stand in one form, over an ordering of its parameters: they go by different ids and
share no parameter, and the ordering lists all that they hold and repeats nothing. -/
structure FormSection.Arranged (sections : List FormSection) (ordering : List String) : Prop where
  idsDiffer : (sections.map (·.id)).Nodup
  placedOnce : (sections.flatMap (·.parameters)).Nodup
  ordered : ∀ group ∈ sections, ∀ id ∈ group.parameters, id ∈ ordering
  once : ordering.Nodup

namespace FormSection.Arranged

variable {sections : List FormSection} {ordering : List String} {group other : FormSection}
  {parameter : String} {item another : FormItem}

theorem group_unique (h : Arranged sections ordering) (hgroup : group ∈ sections)
    (hother : other ∈ sections) (hheld : parameter ∈ group.parameters)
    (hshared : parameter ∈ other.parameters) : group = other := by
  by_contra hne
  have hsymm : Std.Symm (Function.onFun List.Disjoint FormSection.parameters) :=
    ⟨fun _ _ ↦ List.disjoint_symm⟩
  exact (List.nodup_flatMap.mp h.placedOnce).2.forall hgroup hother hne hheld hshared

/-- Every parameter brings one entry only. -/
theorem brings_unique (h : Arranged sections ordering) (hitem : item.Brings sections parameter)
    (hanother : another.Brings sections parameter) : item = another := by
  cases item with
  | parameter id =>
    obtain ⟨rfl, hfree⟩ := hitem
    cases another with
    | parameter other => rw [hanother.1]
    | «section» other =>
      obtain ⟨group, hgroup, hheld, -⟩ := hanother
      exact absurd hheld (hfree group hgroup)
  | «section» id =>
    obtain ⟨group, hgroup, hheld, rfl⟩ := hitem
    cases another with
    | parameter other => exact absurd hheld (hanother.2 group hgroup)
    | «section» other =>
      obtain ⟨second, hsecond, hshared, rfl⟩ := hanother
      rw [h.group_unique hgroup hsecond hheld hshared]

theorem entryOf_eq (h : Arranged sections ordering) (hitem : item.Brings sections parameter) :
    entryOf sections parameter = item :=
  h.brings_unique brings_entryOf hitem

/-- The sections that hold parameters are brought into the form. -/
theorem section_mem_entries_iff (h : Arranged sections ordering) (hgroup : group ∈ sections) :
    .section group.id ∈ ordering.map (entryOf sections) ↔ group.parameters ≠ [] := by
  rw [List.mem_map]
  constructor
  · rintro ⟨parameter, -, hentry⟩
    have hbrings : FormItem.Brings sections parameter (.section group.id) := hentry ▸ brings_entryOf
    obtain ⟨other, hother, hheld, hid⟩ := hbrings
    rw [← List.inj_on_of_nodup_map h.idsDiffer hother hgroup hid]
    exact List.ne_nil_of_mem hheld
  · intro hnonempty
    obtain ⟨parameter, hheld⟩ := List.exists_mem_of_ne_nil _ hnonempty
    exact ⟨parameter, h.ordered group hgroup parameter hheld,
      h.entryOf_eq ⟨group, hgroup, hheld, rfl⟩⟩

/-- The form has the first mention of every entry that the parameters bring, and then the sections
without parameters. -/
theorem formContent_eq (h : Arranged sections ordering) :
    formContent sections ordering = (ordering.map (entryOf sections)).eraseDups ++
      (sections.filter (·.parameters = [])).map (.section ·.id) := by
  have hitems : placeParameters sections [] ordering =
      (ordering.map (entryOf sections)).eraseDups := by
    rw [placeParameters_eq h.once, List.filter_eq_self.mpr (by simp)]
  rw [formContent, hitems, List.filter_map]
  congr 2
  refine List.filter_congr fun group hgroup ↦ ?_
  rw [Function.comp_apply, decide_eq_decide, List.mem_eraseDups,
    h.section_mem_entries_iff hgroup, not_not]

theorem nodup_formContent (h : Arranged sections ordering) :
    (formContent sections ordering).Nodup := by
  have hentries : (ordering.map (entryOf sections)).eraseDups.Nodup := by
    simpa using nodup_eraseDups_filter (fun _ ↦ true) (ordering.map (entryOf sections))
  have hrest : ((sections.filter (·.parameters = [])).map (FormItem.section ·.id)).Nodup := by
    have hsections : ((sections.map (·.id)).map FormItem.section).Nodup :=
      h.idsDiffer.map fun _ _ ↦ FormItem.section.inj
    rw [List.map_map] at hsections
    exact hsections.sublist (List.filter_sublist.map _)
  rw [h.formContent_eq]
  refine List.Nodup.append hentries hrest fun item hitem hempty ↦ ?_
  obtain ⟨group, hgroup, rfl⟩ := List.mem_map.mp hempty
  obtain ⟨hmem, hnone⟩ := List.mem_filter.mp hgroup
  rw [List.mem_eraseDups, h.section_mem_entries_iff hmem] at hitem
  exact hitem (of_decide_eq_true hnone)

/-- The form has all sections. -/
theorem section_mem_formContent (h : Arranged sections ordering) (hgroup : group ∈ sections) :
    .section group.id ∈ formContent sections ordering := by
  rw [h.formContent_eq, List.mem_append, List.mem_eraseDups, h.section_mem_entries_iff hgroup]
  by_cases hempty : group.parameters = []
  · have hrest : group ∈ sections.filter (·.parameters = []) :=
      List.mem_filter.mpr ⟨hgroup, decide_eq_true hempty⟩
    exact .inr (List.mem_map_of_mem hrest)
  · exact .inl hempty

/-- The form has the parameters that no section holds. -/
theorem parameter_mem_formContent_iff (h : Arranged sections ordering) :
    .parameter parameter ∈ formContent sections ordering ↔
      parameter ∈ ordering ∧ ∀ group ∈ sections, parameter ∉ group.parameters := by
  have hrest : FormItem.parameter parameter ∉
      (sections.filter (·.parameters = [])).map (FormItem.section ·.id) := by
    simp
  rw [h.formContent_eq, List.mem_append, List.mem_eraseDups, or_iff_left hrest, List.mem_map]
  constructor
  · rintro ⟨other, hother, hentry⟩
    have hbrings : FormItem.Brings sections other (.parameter parameter) := hentry ▸ brings_entryOf
    obtain ⟨rfl, hfree⟩ := hbrings
    exact ⟨hother, hfree⟩
  · rintro ⟨hmem, hfree⟩
    exact ⟨parameter, hmem, h.entryOf_eq ⟨rfl, hfree⟩⟩

end FormSection.Arranged

/-! ### Forms over accepted layouts -/

namespace SectionLayout

variable {scope : Scope} {ids : List String} {drafts : List SectionDraft} {layout : SectionLayout}
  {ordering : List String}

theorem arranged_of_ofDrafts (hlayout : ofDrafts scope ids drafts = .ok layout)
    (hordering : ordering.Nodup)
    (hordered : ∀ group ∈ layout.sections, ∀ id ∈ group.parameters, id ∈ ordering) :
    FormSection.Arranged layout.sections ordering := by
  obtain ⟨-, hids, hplaced, hsections, -⟩ := ofDrafts_eq_ok_iff_shows.mp hlayout
  refine ⟨?_, ?_, hordered, hordering⟩
  · rw [← hsections, List.map_map]
    exact hids
  · rw [← hsections, List.flatMap_map]
    exact hplaced

/-- A form over an accepted layout has each section once, each parameter of the ordering that no
section holds once, and no other parameter. It is the ordering with the section in place of every
parameter that one holds, of which the first mention stays, and with the sections without parameters
behind it. -/
theorem formContent_covers (hlayout : ofDrafts scope ids drafts = .ok layout)
    (hordering : ordering.Nodup)
    (hordered : ∀ group ∈ layout.sections, ∀ id ∈ group.parameters, id ∈ ordering) :
    (∀ group ∈ layout.sections,
      (formContent layout.sections ordering).count (.section group.id) = 1) ∧
    (∀ id ∈ ordering, (∀ group ∈ layout.sections, id ∉ group.parameters) →
      (formContent layout.sections ordering).count (.parameter id) = 1) ∧
    (∀ group ∈ layout.sections, ∀ id ∈ group.parameters,
      .parameter id ∉ formContent layout.sections ordering) ∧
    ∃ entries, List.Forall₂ (fun id item ↦ item.Brings layout.sections id) ordering entries ∧
      formContent layout.sections ordering = entries.eraseDups ++
        (layout.sections.filter (·.parameters = [])).map (.section ·.id) := by
  have harranged := arranged_of_ofDrafts hlayout hordering hordered
  have hnodup := harranged.nodup_formContent
  refine ⟨fun group hgroup ↦ ?_, fun id hmem hfree ↦ ?_, fun group hgroup id hheld hmem ↦ ?_, ?_⟩
  · exact List.count_eq_one_of_mem hnodup (harranged.section_mem_formContent hgroup)
  · have hstands := harranged.parameter_mem_formContent_iff.mpr ⟨hmem, hfree⟩
    exact List.count_eq_one_of_mem hnodup hstands
  · exact (harranged.parameter_mem_formContent_iff.mp hmem).2 group hgroup hheld
  · refine ⟨ordering.map (entryOf layout.sections), ?_, harranged.formContent_eq⟩
    rw [List.forall₂_map_right_iff, List.forall₂_same]
    exact fun id _ ↦ brings_entryOf

/-- The owner of a ticket stands in the ordering between the two parameters of the summary, and the
section for people is empty. -/
theorem formContent_covers_triage :
    ∃ layout,
      ofDrafts Fixture.triage ["priority", "owner", "tags"] (Fixture.triageSections []) =
        .ok layout ∧
      (∀ group ∈ layout.sections,
        (formContent layout.sections ["priority", "owner", "tags"]).count (.section group.id) = 1) ∧
      ∃ entries,
        List.Forall₂ (fun id item ↦ item.Brings layout.sections id) ["priority", "owner", "tags"]
          entries ∧
        formContent layout.sections ["priority", "owner", "tags"] = entries.eraseDups ++
          (layout.sections.filter (·.parameters = [])).map (.section ·.id) := by
  have hconsistent : SectionDraft.Consistent Fixture.triage ["priority", "owner", "tags"]
      (Fixture.triageSections []) := by
    refine ⟨by decide, by decide, by decide, ?_⟩
    intro draft hdraft change hchange
    simp only [Fixture.triageSections, List.mem_cons, List.not_mem_nil, or_false] at hdraft
    rcases hdraft with rfl | rfl
    · cases hchange
    · cases List.mem_singleton.mp hchange
      exact ⟨_, rfl⟩
  obtain ⟨layout, hlayout⟩ := exists_ofDrafts_iff.mpr hconsistent
  obtain ⟨hsections, -, -, hentries⟩ :=
    formContent_covers hlayout (by decide) (mem_of_ofDrafts hlayout)
  exact ⟨layout, hlayout, hsections, hentries⟩

end SectionLayout

end Ontology
