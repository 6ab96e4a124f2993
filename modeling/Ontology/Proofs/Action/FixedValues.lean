import Ontology.Proofs.Action.PropertyBindings

/-!
What becomes of the values that an author fixes properties to. Every key that is fixed has to be
one of the target, so there is a property for each mapping. But the rule looks for the value of a
property by its key, where the first mapping counts (`mem_boundProperties_iff_of_fixed`), and a rule
that deletes binds nothing at all. So all mappings reach the rule exactly when the action does not
delete and gives no key two values (`compile_fixedValues`); the others are passed over in silence
(`not_forall_fixedValues_bound`).
-/

set_option autoImplicit false
set_option relaxedAutoImplicit false

namespace Ontology.CrudDefinition

open Outcome

variable {registry : Registry} {definition : CrudDefinition} {target : ActionTarget}
  {sketches : List ParameterSketch} {compiled : CompiledAction} {ids : List String} {key : String}
  {value : ValueSource}

/-! ### Mappings -/

/-- A value is the one of the first mapping of a key. -/
def FixesFirst (definition : CrudDefinition) (key : String) (value : ValueSource) : Prop :=
  ∃ before after, definition.fixedValues = before ++ (key, value) :: after ∧
    key ∉ before.map (·.1)

/-- No key is given two values. -/
def FixesOnce (definition : CrudDefinition) : Prop :=
  ∀ entry ∈ definition.fixedValues, ∀ other ∈ definition.fixedValues,
    other.1 = entry.1 → other = entry

theorem fixesFirst_iff :
    definition.FixesFirst key value ↔ definition.fixedValue? key = some value :=
  fixedValue?_eq_some_iff.symm

theorem FixesFirst.mem (h : definition.FixesFirst key value) :
    (key, value) ∈ definition.fixedValues := by
  obtain ⟨before, after, hsplit, -⟩ := h
  rw [hsplit]
  exact List.mem_append_right _ List.mem_cons_self

theorem FixesFirst.unique {other : ValueSource} (h : definition.FixesFirst key value)
    (hother : definition.FixesFirst key other) : value = other := by
  rw [fixesFirst_iff] at h hother
  exact Option.some.inj (h.symm.trans hother)

theorem exists_fixesFirst (hkey : key ∈ definition.fixedValues.map (·.1)) :
    ∃ value, definition.FixesFirst key value := by
  simp only [fixesFirst_iff, ← Option.isSome_iff_exists, ← Option.ne_none_iff_isSome, ne_eq,
    fixedValue?_eq_none_iff, not_not]
  exact hkey

/-- Each mapping is the first of its key exactly when no key is given two values. -/
theorem fixesOnce_iff :
    definition.FixesOnce ↔
      ∀ entry ∈ definition.fixedValues, definition.FixesFirst entry.1 entry.2 := by
  constructor
  · rintro h ⟨key, given⟩ hentry
    obtain ⟨value, hfirst⟩ := exists_fixesFirst (List.mem_map_of_mem hentry)
    cases h (key, given) hentry (key, value) hfirst.mem rfl
    exact hfirst
  · intro h entry hentry other hother hkey
    refine Prod.ext hkey ?_
    exact (h other hother).unique (hkey ▸ h entry hentry)

/-! ### Bindings -/

/-- Under a key that is fixed, the value of the first mapping is bound and no other. -/
theorem mem_boundProperties_iff_of_fixed (h : definition.synthesize target = .ok sketches)
    (hkey : key ∈ definition.fixedValues.map (·.1)) :
    (key, value) ∈ definition.boundProperties target ids ↔ definition.FixesFirst key value := by
  constructor
  · intro hmem
    obtain ⟨property, -, rfl, -, hvalue⟩ := mem_boundProperties_iff.mp hmem
    rcases boundValue?_eq_some_iff.mp hvalue with hfixed | ⟨hfree, -⟩
    · exact fixesFirst_iff.mpr hfixed
    · exact absurd hkey hfree
  · rintro ⟨before, after, hsplit, hfirst⟩
    exact mem_boundProperties_of_fixed h hsplit hfirst

/-- An action that compiles has a target. -/
theorem exists_target_of_compile (h : definition.compile registry = .ok compiled) :
    ∃ target, ActionTarget.resolve registry definition.target = .ok target := by
  have hcompile : (ActionDefinition.generated definition).compile registry = .ok compiled := h
  obtain ⟨elaboration, helaborate, -⟩ := ActionDefinition.exists_elaboration_of_compile hcompile
  obtain ⟨target, htarget, -⟩ := elaborate_eq_ok_iff.mp helaborate
  exact ⟨target, htarget⟩

/-- The rule of an action that does not delete binds a key that is fixed to the value of its first
mapping. -/
theorem mem_bindings_iff_of_fixed (h : definition.compile registry = .ok compiled) :
    ∃ rule, compiled.actionType.logic = [rule] ∧
      ∀ key ∈ definition.fixedValues.map (·.1), ∀ value,
        (key, value) ∈ rule.bindings ↔
          definition.kind ≠ .delete ∧ definition.FixesFirst key value := by
  obtain ⟨target, htarget⟩ := exists_target_of_compile h
  obtain ⟨sketches, hsketches, -⟩ := exists_synthesize_of_compile htarget h
  obtain ⟨rule, hlogic, hbindings⟩ := bindings_of_compile htarget h
  refine ⟨rule, hlogic, fun key hkey value ↦ ?_⟩
  rw [hbindings]
  by_cases hkind : definition.kind = .delete
  · simp [hkind]
  · rw [if_neg hkind, mem_boundProperties_iff_of_fixed hsketches hkey]
    exact (and_iff_right hkind).symm

/-- A mapping reaches the rule of an action that compiles when the action does not delete and the
mapping agrees with the first one of its key. So all of them do, if there are any, exactly when the
action does not delete and gives no key two values. -/
theorem compile_fixedValues (h : definition.compile registry = .ok compiled) :
    ∃ rule, compiled.actionType.logic = [rule] ∧
      (∀ entry ∈ definition.fixedValues, entry ∈ rule.bindings ↔
        definition.kind ≠ .delete ∧ definition.FixesFirst entry.1 entry.2) ∧
      ((∀ entry ∈ definition.fixedValues, entry ∈ rule.bindings) ↔
        definition.fixedValues = [] ∨ definition.kind ≠ .delete ∧ definition.FixesOnce) := by
  obtain ⟨rule, hlogic, hbound⟩ := mem_bindings_iff_of_fixed h
  have hentries : ∀ entry ∈ definition.fixedValues, entry ∈ rule.bindings ↔
      definition.kind ≠ .delete ∧ definition.FixesFirst entry.1 entry.2 := fun entry hentry ↦
    hbound entry.1 (List.mem_map_of_mem hentry) entry.2
  refine ⟨rule, hlogic, hentries, fun hall ↦ ?_, ?_⟩
  · by_cases hnone : definition.fixedValues = []
    · exact .inl hnone
    · obtain ⟨first, hfirst⟩ := List.exists_mem_of_ne_nil _ hnone
      refine .inr ⟨((hentries first hfirst).mp (hall first hfirst)).1, fixesOnce_iff.mpr ?_⟩
      exact fun entry hentry ↦ ((hentries entry hentry).mp (hall entry hentry)).2
  · rintro (hnone | ⟨hkind, honce⟩) entry hentry
    · rw [hnone] at hentry
      cases hentry
    · exact (hentries entry hentry).mpr ⟨hkind, fixesOnce_iff.mp honce entry hentry⟩

/-- An action that deletes a `foo`, although its optional text is to take a value. -/
def Fixture.archiveFoo : CrudDefinition where
  id := ⟨"com.example.archive-foo"⟩
  kind := .delete
  target := .object ⟨"com.example.foo"⟩
  fixedValues := [("optionalProp", .literal (.string "archived"))]

/-- A ticket is confirmed, and a `foo` archived without anything being written. -/
theorem compile_confirmTicket_archiveFoo :
    (Fixture.confirmTicket.compile
      (Fixture.registry Fixture.ticket)).toOption.map (fun _ ↦ ()) = some () ∧
    (Fixture.archiveFoo.compile (Fixture.registry Fixture.foo)).toOption.map
      (·.actionType.logic.map (·.bindings.map (·.1))) = some [[]] := by
  decide +kernel

/-- Of the two values that the urgency of a ticket is fixed to, the rule has the first. -/
theorem compile_fixedValues_confirmTicket :
    ∃ compiled rule, Fixture.confirmTicket.compile (Fixture.registry Fixture.ticket) =
        .ok compiled ∧
      compiled.actionType.logic = [rule] ∧
      ("urgent", .literal (.boolean true)) ∈ rule.bindings ∧
      ("urgent", .literal (.boolean false)) ∉ rule.bindings := by
  obtain ⟨compiled, hcompile, -⟩ := exists_of_toOption_map compile_confirmTicket_archiveFoo.1
  obtain ⟨rule, hlogic, hentries, -⟩ := compile_fixedValues hcompile
  have hfirst : Fixture.confirmTicket.FixesFirst "urgent" (.literal (.boolean true)) :=
    ⟨[], _, rfl, List.not_mem_nil⟩
  refine ⟨compiled, rule, hcompile, hlogic, ?_, fun hmem ↦ ?_⟩
  · exact (hentries _ List.mem_cons_self).mpr ⟨by decide, hfirst⟩
  · have hsecond := (hentries _ (List.mem_cons_of_mem _ List.mem_cons_self)).mp hmem
    cases hfirst.unique hsecond.2

/-- The text that an archived `foo` is to take goes nowhere, since the action deletes it. -/
theorem not_forall_fixedValues_bound :
    ¬ ∀ (registry : Registry) (definition : CrudDefinition) (compiled : CompiledAction),
      definition.compile registry = .ok compiled → ∀ entry ∈ definition.fixedValues,
        ∃ rule ∈ compiled.actionType.logic, entry ∈ rule.bindings := by
  intro hall
  obtain ⟨compiled, hcompile, hbound⟩ := exists_of_toOption_map compile_confirmTicket_archiveFoo.2
  obtain ⟨rule, hrule, hmem⟩ := hall _ _ _ hcompile _ List.mem_cons_self
  have hkeys : rule.bindings.map (·.1) ∈ ([[]] : List (List String)) :=
    hbound ▸ List.mem_map_of_mem hrule
  rw [List.mem_singleton, List.map_eq_nil_iff] at hkeys
  rw [hkeys] at hmem
  cases hmem

end Ontology.CrudDefinition
