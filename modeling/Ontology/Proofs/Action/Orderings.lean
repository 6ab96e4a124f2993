import Ontology.Proofs.Action.Scope
import Mathlib.Data.List.Infix
import Mathlib.Data.List.Perm.Basic

/-!
What is reported about an ordering that is refused. The scan of an ordering carries the expected
entries that it has seen, and reports an entry that is not expected or that it has seen. These are
the stray entries, which are not expected or stand further ahead already (`strayEntries`,
`extraneousEntries_nil_eq`): an entry that is not expected counts as stray each time, so it makes
no difference that the scan does not remember it.

Nothing gets lost between the ordering and the report. The entries of an ordering are those that are
reported and, once each, the expected ids that it does not leave out
(`perm_append_extraneousEntries`). So over distinct ids the check accepts the permutations of the
expected ids, and of any other ordering it says what has to come and what has to go
(`checkOrdering_diagnosis`).
-/

set_option autoImplicit false
set_option relaxedAutoImplicit false

namespace Ontology

variable {expected earlier ordering : List String} {action : Identifier}

/-! ### Stray entries -/

/-- The entries of an ordering that are not expected or stand further ahead already. -/
def strayEntries (expected ordering : List String) : List String :=
  ((ordering.zip ordering.inits).filter fun (id, ahead) ↦ id ∉ expected ∨ id ∈ ahead).map (·.1)

/-- What stands ahead of an entry of the rest is the first entry and what stands ahead of it
there. -/
theorem zip_inits_cons (first : String) (rest : List String) :
    (first :: rest).zip (first :: rest).inits =
      (first, []) :: (rest.zip rest.inits).map fun (id, ahead) ↦ (id, first :: ahead) := by
  rw [List.inits_cons, List.zip_cons_cons, List.zip_map_right]
  rfl

/-- After earlier entries, the scan reports those that are not expected, and those that stand among
the earlier ones or further ahead. -/
theorem extraneousEntries_eq (expected earlier ordering : List String) :
    extraneousEntries expected earlier ordering =
      ((ordering.zip ordering.inits).filter fun (id, ahead) ↦
        id ∉ expected ∨ id ∈ earlier ∨ id ∈ ahead).map (·.1) := by
  induction ordering generalizing earlier with
  | nil => rfl
  | cons first rest ih =>
    rw [zip_inits_cons, List.filter_cons, List.filter_map, extraneousEntries]
    by_cases hstray : first ∉ expected ∨ first ∈ earlier
    · -- The scan does not remember a stray entry, but where it stands again it is stray again.
      have hagain (id : String) (ahead : List String) :
          (id ∉ expected ∨ id ∈ earlier ∨ id ∈ first :: ahead) ↔
            id ∉ expected ∨ id ∈ earlier ∨ id ∈ ahead := by
        grind
      rw [if_pos hstray, if_pos (by simpa using hstray), List.map_cons, List.map_map, ih earlier]
      simp only [Function.comp_def, hagain]
    · have hseen (id : String) (ahead : List String) :
          (id ∉ expected ∨ id ∈ earlier ∨ id ∈ first :: ahead) ↔
            id ∉ expected ∨ id ∈ first :: earlier ∨ id ∈ ahead := by
        grind
      rw [if_neg hstray, if_neg (by simpa using hstray), List.map_map, ih (first :: earlier)]
      simp only [Function.comp_def, hseen]

theorem extraneousEntries_nil_eq (expected ordering : List String) :
    extraneousEntries expected [] ordering = strayEntries expected ordering := by
  simp only [extraneousEntries_eq, List.not_mem_nil, false_or, strayEntries]

/-! ### Conservation -/

/-- After earlier entries, the scan parts an ordering into what it reports and expected ids that it
has not seen, each once. -/
theorem exists_perm_append_extraneousEntries (expected earlier ordering : List String) :
    ∃ kept, ordering.Perm (kept ++ extraneousEntries expected earlier ordering) ∧ kept.Nodup ∧
      ∀ id, id ∈ kept ↔ id ∈ ordering ∧ id ∈ expected ∧ id ∉ earlier := by
  induction ordering generalizing earlier with
  | nil => exact ⟨[], .nil, .nil, by simp⟩
  | cons first rest ih =>
    rw [extraneousEntries]
    by_cases hstray : first ∉ expected ∨ first ∈ earlier
    · obtain ⟨kept, hperm, hnodup, hmem⟩ := ih earlier
      rw [if_pos hstray]
      refine ⟨kept, (hperm.cons first).trans List.perm_middle.symm, hnodup, fun id ↦ ?_⟩
      rw [hmem, List.mem_cons]
      grind
    · obtain ⟨kept, hperm, hnodup, hmem⟩ := ih (first :: earlier)
      rw [if_neg hstray]
      have hfirst : first ∉ kept := by simp [hmem]
      refine ⟨first :: kept, hperm.cons first, hnodup.cons hfirst, fun id ↦ ?_⟩
      rw [List.mem_cons, hmem, List.mem_cons, List.mem_cons]
      grind

theorem mem_missingEntries_iff {id : String} :
    id ∈ missingEntries expected ordering ↔ id ∈ expected ∧ id ∉ ordering := by
  simp [missingEntries]

/-- The entries of an ordering are the expected ids that it does not leave out, and those that are
reported. -/
theorem perm_append_extraneousEntries (hexpected : expected.Nodup) (ordering : List String) :
    ordering.Perm (expected.filter (· ∉ missingEntries expected ordering) ++
      extraneousEntries expected [] ordering) := by
  obtain ⟨kept, hperm, hnodup, hmem⟩ := exists_perm_append_extraneousEntries expected [] ordering
  have hkept : kept.Perm (expected.filter (· ∉ missingEntries expected ordering)) := by
    refine (List.perm_ext_iff_of_nodup hnodup (hexpected.filter _)).mpr fun id ↦ ?_
    rw [hmem, List.mem_filter, decide_eq_true_iff, mem_missingEntries_iff]
    grind
  exact hperm.trans (hkept.append_right _)

/-! ### The diagnosis -/

/-- Over distinct ids an ordering passes when it is a permutation of them. -/
theorem checkOrdering_eq_ok_iff_perm (hexpected : expected.Nodup) :
    checkOrdering action expected ordering = .ok () ↔ ordering.Perm expected := by
  rw [checkOrdering_eq_ok_iff]
  constructor
  · rintro ⟨hordering, hmem⟩
    exact (List.perm_ext_iff_of_nodup hordering hexpected).mpr hmem
  · intro hperm
    exact ⟨hperm.nodup_iff.mpr hexpected, fun id ↦ hperm.mem_iff⟩

/-- An ordering that does not pass is reported with its extraneous entries and what it leaves
out. -/
theorem checkOrdering_eq_error (h : checkOrdering action expected ordering ≠ .ok ()) :
    checkOrdering action expected ordering =
      .error (.orderingMismatch action (extraneousEntries expected [] ordering)
        (missingEntries expected ordering)) := by
  unfold checkOrdering at h ⊢
  split
  · next hextraneous hmissing => simp [hextraneous, hmissing] at h
  · rfl

/-- Over distinct ids the check passes the permutations of the expected ids. Of any other ordering
it reports which expected ids are missing and which entries are stray, each list in its own order,
and the ordering holds the stray entries and the expected ids that are not missing. -/
theorem checkOrdering_diagnosis (action : Identifier) (hexpected : expected.Nodup)
    (ordering : List String) :
    (checkOrdering action expected ordering = .ok () ↔ ordering.Perm expected) ∧
    (¬ ordering.Perm expected → ∃ extraneous missing,
      checkOrdering action expected ordering =
        .error (.orderingMismatch action extraneous missing) ∧
      missing.Sublist expected ∧ (∀ id, id ∈ missing ↔ id ∈ expected ∧ id ∉ ordering) ∧
      extraneous = strayEntries expected ordering ∧
      ordering.Perm (expected.filter (· ∉ missing) ++ extraneous)) := by
  have hpass : checkOrdering action expected ordering = .ok () ↔ ordering.Perm expected :=
    checkOrdering_eq_ok_iff_perm hexpected
  refine ⟨hpass, fun hrefused ↦ ?_⟩
  refine ⟨_, _, checkOrdering_eq_error (hrefused ∘ hpass.mp), List.filter_sublist, ?_,
    extraneousEntries_nil_eq expected ordering, perm_append_extraneousEntries hexpected ordering⟩
  exact fun id ↦ mem_missingEntries_iff

/-- The second `foo` and an id that nothing goes by have to go, and the name has to come. -/
theorem checkOrdering_diagnosis_foo :
    ["name", "foo"].Nodup ∧ ¬ ["foo", "id", "foo"].Perm ["name", "foo"] ∧
      ∃ extraneous missing,
        checkOrdering ⟨"com.example.a"⟩ ["name", "foo"] ["foo", "id", "foo"] =
          .error (.orderingMismatch ⟨"com.example.a"⟩ extraneous missing) ∧
        extraneous = ["id", "foo"] ∧ "name" ∈ missing := by
  have hexpected : ["name", "foo"].Nodup := by decide
  have hrefused : ¬ ["foo", "id", "foo"].Perm ["name", "foo"] := by decide
  obtain ⟨extraneous, missing, hreport, -, hmissing, hextraneous, -⟩ :=
    (checkOrdering_diagnosis ⟨"com.example.a"⟩ hexpected _).2 hrefused
  have hstray : strayEntries ["name", "foo"] ["foo", "id", "foo"] = ["id", "foo"] := by
    decide +kernel
  exact ⟨hexpected, hrefused, extraneous, missing, hreport, hextraneous.trans hstray,
    (hmissing "name").mpr (by decide)⟩

end Ontology
