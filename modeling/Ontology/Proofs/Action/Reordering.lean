import Ontology.Proofs.Action.Elaboration

/-!
Asking for an ordering. The layout of a form depends only on which parameters there are
(`ofDrafts_congr_of_mem`), so a definition compiles under an ordering exactly when it compiles
without one and the ordering holds the ids of its parameters, each once. What comes out is the same
action with its parameters and its form in the new order.
-/

set_option autoImplicit false
set_option relaxedAutoImplicit false

namespace Ontology

open Outcome

variable {registry : Registry} {requested : Option (List String)} {first second : List String}

/-! ### Orderings with the same members -/

/-- A layout depends on which parameters there are, and not on their order. -/
theorem SectionLayout.ofDrafts_congr_of_mem (hmem : ∀ id, id ∈ first ↔ id ∈ second)
    (scope : Scope) (drafts : List SectionDraft) :
    SectionLayout.ofDrafts scope first drafts = SectionLayout.ofDrafts scope second drafts := by
  have hdeclared : (fun id : String ↦ decide (id ∈ first)) = fun id ↦ decide (id ∈ second) :=
    funext fun id ↦ decide_eq_decide.mpr (hmem id)
  rw [ofDrafts, ofDrafts, hdeclared]

/-- The action with its parameters, and the form that follows them, in another order. -/
def CompiledAction.reorder (compiled : CompiledAction) (ordering : List String) : CompiledAction :=
  { compiled with
    actionType :=
      { compiled.actionType with
        parameterOrdering := ordering
        formContent := formContent compiled.actionType.sections ordering } }

/-- An assembly over other ids with the same members gives the same action in another order. -/
theorem ActionFrame.assemble_reorder {frame : ActionFrame} {id : Identifier} {scope : Scope}
    {displayName : String} {rules : List Rule} {parameters : List Parameter}
    {compiled : CompiledAction} (hmem : ∀ id, id ∈ first ↔ id ∈ second)
    (h : frame.assemble id scope displayName rules parameters first = .ok compiled) :
    frame.assemble id scope displayName rules parameters second =
      .ok (compiled.reorder second) := by
  obtain ⟨layout, hlayout, submission, hsubmission, rfl⟩ := assemble_eq_ok_iff.mp h
  rw [SectionLayout.ofDrafts_congr_of_mem hmem] at hlayout
  exact assemble_eq_ok_iff.mpr ⟨layout, hlayout, submission, hsubmission, rfl⟩

/-! ### Definitions under another ordering -/

namespace ActionDefinition

/-- The definition with another ordering, or none, asked for. -/
def withOrdering (requested : Option (List String)) : ActionDefinition → ActionDefinition
  | .generated definition => .generated { definition with ordering := requested }
  | .manual definition => .manual { definition with ordering := requested }

variable {definition : ActionDefinition} {compiled reordered : CompiledAction}
  {ordering : List String}

@[simp] theorem id_withOrdering : (definition.withOrdering requested).id = definition.id := by
  cases definition <;> rfl

@[simp] theorem ordering_withOrdering :
    (definition.withOrdering requested).frame.ordering = requested := by
  cases definition <;> rfl

/-- An elaboration does not ask for the ordering. -/
@[simp] theorem elaborate_withOrdering :
    (definition.withOrdering requested).elaborate registry = definition.elaborate registry := by
  cases definition <;> rfl

@[simp] theorem assemble_withOrdering :
    (definition.withOrdering requested).frame.assemble = definition.frame.assemble := by
  cases definition <;> rfl

/-- The ids of the parameters of a compiled action are those of its elaboration. -/
theorem parameters_ids_of_compile (h : definition.compile registry = .ok compiled) :
    ∃ elaboration, definition.elaborate registry = .ok elaboration ∧
      compiled.actionType.parameters.map (·.id) = elaboration.ids := by
  obtain ⟨elaboration, helaborate, ordering, -, hassemble⟩ := compile_eq_ok_iff.mp h
  obtain ⟨layout, -, submission, -, rfl⟩ := ActionFrame.assemble_eq_ok_iff.mp hassemble
  exact ⟨elaboration, helaborate, parameters_ids helaborate⟩

/-- A definition compiles under an ordering when it compiles without one and the ordering arranges
its parameters. -/
theorem compile_withOrdering_eq_ok_iff (hnone : definition.frame.ordering = none) :
    (definition.withOrdering (some ordering)).compile registry = .ok reordered ↔
      ∃ compiled, definition.compile registry = .ok compiled ∧
        (ordering.Nodup ∧
          ∀ id, id ∈ ordering ↔ id ∈ compiled.actionType.parameters.map (·.id)) ∧
        reordered = compiled.reorder ordering := by
  constructor
  · intro h
    obtain ⟨elaboration, helaborate, arranged, harranged, hassemble⟩ := compile_eq_ok_iff.mp h
    simp only [elaborate_withOrdering] at helaborate
    simp only [id_withOrdering, assemble_withOrdering, ordering_withOrdering] at harranged hassemble
    rcases resolveOrdering_eq_ok_iff.mp harranged with ⟨hnot, -⟩ | ⟨hsame, hnodup, hmem⟩
    · cases hnot
    cases hsame
    -- What was assembled in the order asked for can be assembled in that of the declarations.
    have hdeclared := ActionFrame.assemble_reorder hmem hassemble
    have hcompile : definition.compile registry = .ok (reordered.reorder elaboration.ids) := by
      refine compile_eq_ok_iff.mpr ⟨elaboration, helaborate, elaboration.ids, ?_, hdeclared⟩
      rw [hnone, resolveOrdering]
    refine ⟨_, hcompile, ⟨hnodup, ?_⟩, ?_⟩
    · obtain ⟨layout, -, submission, -, rfl⟩ := ActionFrame.assemble_eq_ok_iff.mp hassemble
      intro id
      rw [hmem, ← parameters_ids helaborate]
      rfl
    · obtain ⟨layout, -, submission, -, rfl⟩ := ActionFrame.assemble_eq_ok_iff.mp hassemble
      rfl
  · rintro ⟨compiled, hcompile, ⟨hnodup, hmem⟩, rfl⟩
    obtain ⟨elaboration, helaborate, arranged, harranged, hassemble⟩ :=
      compile_eq_ok_iff.mp hcompile
    rw [hnone, resolveOrdering, Except.ok.injEq] at harranged
    subst harranged
    obtain ⟨found, hfound, hids⟩ := parameters_ids_of_compile hcompile
    cases helaborate.symm.trans hfound
    rw [hids] at hmem
    have hpass : resolveOrdering definition.id elaboration.ids (some ordering) = .ok ordering :=
      resolveOrdering_eq_ok_iff.mpr (.inr ⟨rfl, hnodup, hmem⟩)
    refine compile_eq_ok_iff.mpr ⟨elaboration, ?_, ordering, ?_, ?_⟩
    · rw [elaborate_withOrdering]
      exact helaborate
    · rw [id_withOrdering, ordering_withOrdering]
      exact hpass
    · rw [id_withOrdering, assemble_withOrdering]
      exact ActionFrame.assemble_reorder (fun id ↦ (hmem id).symm) hassemble

/-- An ordering is accepted exactly when it holds the ids of the parameters, each once, and then
nothing but the order of the parameters and of the form is new. A definition that does not compile
without an ordering does not compile with one. -/
theorem compile_withOrdering (registry : Registry) (definition : ActionDefinition)
    (hnone : definition.frame.ordering = none) (ordering : List String) :
    (∀ compiled, definition.compile registry = .ok compiled →
      ((∃ reordered, (definition.withOrdering (some ordering)).compile registry = .ok reordered) ↔
        ordering.Nodup ∧
          ∀ id, id ∈ ordering ↔ id ∈ compiled.actionType.parameters.map (·.id)) ∧
      ∀ reordered, (definition.withOrdering (some ordering)).compile registry = .ok reordered →
        reordered.permission = compiled.permission ∧
        reordered.actionType =
          { compiled.actionType with
            parameterOrdering := ordering
            formContent := formContent compiled.actionType.sections ordering }) ∧
    ((∀ compiled, definition.compile registry ≠ .ok compiled) →
      ∀ reordered, (definition.withOrdering (some ordering)).compile registry ≠ .ok reordered) := by
  simp only [ne_eq, compile_withOrdering_eq_ok_iff hnone]
  refine ⟨fun compiled hcompile ↦ ⟨⟨?_, ?_⟩, ?_⟩, ?_⟩
  · rintro ⟨reordered, other, hother, hpass, -⟩
    cases hcompile.symm.trans hother
    exact hpass
  · intro hpass
    exact ⟨_, compiled, hcompile, hpass, rfl⟩
  · rintro reordered ⟨other, hother, -, rfl⟩
    cases hcompile.symm.trans hother
    exact ⟨rfl, rfl⟩
  · rintro hfail reordered ⟨compiled, hcompile, -⟩
    exact hfail compiled hcompile

theorem compile_withOrdering_editTicket :
    (generated Fixture.editTicket).frame.ordering = none ∧
      ∃ reordered, ((generated Fixture.editTicket).withOrdering
          (some ["reason", "tags", "objectToModifyParameter", "title", "estimate",
            "priority"])).compile (Fixture.registry Fixture.ticket) = .ok reordered := by
  obtain ⟨compiled, hcompile, hids⟩ := Fixture.editTicket_compile
  refine ⟨rfl, ((compile_withOrdering _ _ rfl _).1 compiled hcompile).1.mpr ⟨by decide, ?_⟩⟩
  intro id
  rw [hids]
  exact List.Perm.mem_iff (by decide)

end ActionDefinition

end Ontology
