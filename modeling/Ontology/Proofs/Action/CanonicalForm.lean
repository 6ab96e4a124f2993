import Ontology.Proofs.Action.Comparisons
import Ontology.Scenario.Fixture

/-!
Conditions and their canonical form. Whatever a leaf of a condition is written as, it makes at most
one comparison (`ConditionDraft.comparison?`). The canonical form is the same tree with these
comparisons for leaves (`ConditionDraft.canonical`). Bringing a condition into this form is to check
its comparisons from left to right, and nothing else (`compile_eq`). So a condition compiles exactly
when all its comparisons are well formed, and what is reported otherwise is the fault of the first
that is not (`compile_wellFormed`); and it makes no difference how the leaves are written, nor
whether a condition is drafted or read back from its canonical form (`compile_otherForms`).
-/

set_option autoImplicit false
set_option relaxedAutoImplicit false

namespace Ontology

open Outcome

/-! ### Leaves as comparisons -/

/-- What a subject is compared with, as the right side of a comparison. -/
def Comparand.operand : Comparand → Operand
  | .parameter id => .parameter id
  | .literal value => .literal value

namespace ConditionDraft

/-- The comparison that a leaf makes. The leaf that always holds makes none. -/
def comparison? : ConditionDraft → Option Comparison
  | .memberOf group =>
    some ⟨.intersects, .userProperty .currentUser .groupIds, .literal (.list [.string group])⟩
  | .parameter id operator value => some ⟨operator, .parameter id, value.operand⟩
  | .userProperty user property operator value =>
    some ⟨operator, .userProperty user property, value.operand⟩
  | .comparison operator left right => some ⟨operator, left, right⟩
  | .always | .all _ | .any _ => none

mutual

/-- The comparisons that the leaves of a condition make, from left to right. -/
def comparisons : ConditionDraft → List Comparison
  | .all conditions | .any conditions => comparisonsOfAll conditions
  | leaf => leaf.comparison?.toList

/-- The comparisons that several conditions make. -/
def comparisonsOfAll : List ConditionDraft → List Comparison
  | [] => []
  | condition :: rest => comparisons condition ++ comparisonsOfAll rest

end

mutual

/-- The canonical form of a condition: its branches as they stand, and each leaf as the comparison
that it makes. -/
def canonical : ConditionDraft → Condition
  | .all conditions => .all (canonicalAll conditions)
  | .any conditions => .any (canonicalAll conditions)
  | leaf =>
    match leaf.comparison? with
    | some ⟨operator, left, right⟩ => .comparison operator left right
    | none => .always

/-- The canonical forms of several conditions. -/
def canonicalAll : List ConditionDraft → List Condition
  | [] => []
  | condition :: rest => canonical condition :: canonicalAll rest

end

mutual

/-- The condition with each leaf written as the comparison that it makes. -/
def asComparisons : ConditionDraft → ConditionDraft
  | .all conditions => .all (allAsComparisons conditions)
  | .any conditions => .any (allAsComparisons conditions)
  | leaf =>
    match leaf.comparison? with
    | some ⟨operator, left, right⟩ => .comparison operator left right
    | none => leaf

/-- Several conditions with each leaf written as the comparison that it makes. -/
def allAsComparisons : List ConditionDraft → List ConditionDraft
  | [] => []
  | condition :: rest => asComparisons condition :: allAsComparisons rest

end

end ConditionDraft

namespace Condition

mutual

/-- A condition in canonical form, read as a draft. -/
def draft : Condition → ConditionDraft
  | .always => .always
  | .comparison operator left right => .comparison operator left right
  | .all conditions => .all (draftAll conditions)
  | .any conditions => .any (draftAll conditions)

/-- Several conditions in canonical form, read as drafts. -/
def draftAll : List Condition → List ConditionDraft
  | [] => []
  | condition :: rest => draft condition :: draftAll rest

end

end Condition

/-! ### Compilation as a check of comparisons -/

namespace ConditionDraft

variable {scope : Scope} {leaf : ConditionDraft} {comparison : Comparison}

/-- The right side is checked as it is in a comparison, once the left side has its type. -/
theorem checkComparison_operand {operator : Operator} {left : Operand} {subject : String}
    {type : ParameterType} (hleft : scope.operandType left = .ok (some (subject, type)))
    (value : Comparand) :
    (scope.compileComparand subject type operator value >>= fun right ↦
        .ok (Condition.comparison operator left right)) =
      scope.checkComparison operator left value.operand >>= fun _ ↦
        .ok (.comparison operator left value.operand) := by
  rw [Scope.checkComparison, hleft]
  cases value with
  | literal value =>
    simp only [Scope.compileComparand, Comparand.operand, Scope.operandType]
    cases left with
    | literal => cases hleft
    | parameter | userProperty =>
      cases hcheck : checkComparedLiteral subject type operator value <;>
        simp [hcheck, bind, Except.bind, pure, Except.pure]
  | parameter id =>
    simp only [Scope.compileComparand, Comparand.operand, Scope.operandType]
    cases scope.conditionType id <;> rfl

/-- A leaf compiles to the comparison that it makes, if this passes. -/
theorem compile_of_comparison? (h : leaf.comparison? = some comparison) :
    leaf.compile scope = comparison.check scope >>= fun _ ↦
      .ok (.comparison comparison.operator comparison.left comparison.right) := by
  cases leaf with
  | always | all | any => cases h
  | memberOf group =>
    cases h
    rfl
  | comparison operator left right =>
    cases h
    rfl
  | parameter id operator value =>
    cases h
    rw [compile, Comparison.check]
    cases hid : scope.conditionType id with
    | error error =>
      rw [Scope.checkComparison, Scope.operandType, hid]
      rfl
    | ok type =>
      refine checkComparison_operand ?_ value
      rw [Scope.operandType, hid]
      rfl
  | userProperty user property operator value =>
    cases h
    rw [compile, Comparison.check]
    cases huser : scope.checkUser user with
    | error error =>
      rw [Scope.checkComparison, Scope.operandType, huser]
      rfl
    | ok _ =>
      refine checkComparison_operand ?_ value
      rw [Scope.operandType, huser]
      rfl

theorem compile_leaf (h : leaf.comparison? = some comparison) :
    leaf.compile scope = leaf.comparisons.forM (·.check scope) >>= fun _ ↦ .ok leaf.canonical := by
  have hcomparisons : leaf.comparisons = [comparison] := by
    cases leaf <;> cases h <;> rfl
  have hcanonical : leaf.canonical =
      .comparison comparison.operator comparison.left comparison.right := by
    cases leaf <;> cases h <;> rfl
  rw [hcomparisons, hcanonical, compile_of_comparison? h, List.forM_eq_forM, List.forM_cons,
    List.forM_nil, bind_pure_unit]

-- The recursion is that of `compile` and `compileAll`: branches check their conditions in order.
mutual

/-- A condition compiles to its canonical form, if its comparisons pass from left to right. -/
theorem compile_eq (scope : Scope) : ∀ draft : ConditionDraft,
    draft.compile scope =
      draft.comparisons.forM (·.check scope) >>= fun _ ↦ .ok draft.canonical
  | .always => rfl
  | .memberOf group => rfl
  | .parameter id operator value => compile_leaf rfl
  | .userProperty user property operator value => compile_leaf rfl
  | .comparison operator left right => compile_leaf rfl
  | .all conditions => by
    rw [compile, compileAll_eq scope conditions, bind_assoc, comparisons, canonical]
    rfl
  | .any conditions => by
    rw [compile, compileAll_eq scope conditions, bind_assoc, comparisons, canonical]
    rfl

/-- So do several conditions. -/
theorem compileAll_eq (scope : Scope) : ∀ drafts : List ConditionDraft,
    compileAll scope drafts =
      (comparisonsOfAll drafts).forM (·.check scope) >>= fun _ ↦ .ok (canonicalAll drafts)
  | [] => rfl
  | draft :: rest => by
    rw [compileAll, compile_eq scope draft, compileAll_eq scope rest, comparisonsOfAll,
      List.forM_eq_forM, List.forM_append]
    simp only [bind_assoc]
    rfl

end

/-! ### Which conditions compile -/

/-- A condition compiles exactly when all comparisons that its leaves make are well formed, and then
to its canonical form. Otherwise the fault of the first comparison from the left that is not well
formed is reported. -/
theorem compile_wellFormed (scope : Scope) (draft : ConditionDraft) :
    (∀ condition, draft.compile scope = .ok condition ↔
      (∀ comparison ∈ draft.comparisons, comparison.WellFormed scope) ∧
        draft.canonical = condition) ∧
    ∀ error, draft.compile scope = .error error ↔
      ∃ before comparison after, draft.comparisons = before ++ comparison :: after ∧
        (∀ earlier ∈ before, earlier.WellFormed scope) ∧ comparison.Fault scope error := by
  rw [compile_eq]
  constructor
  · intro condition
    rw [bind_eq_ok_iff, exists_unit_eq_ok_and_iff, forM_eq_ok_iff, Except.ok.injEq]
    simp only [Comparison.check_eq_ok_iff]
  · intro error
    rw [bind_eq_error_iff, forM_eq_error_iff]
    simp only [Comparison.check_eq_ok_iff, Comparison.check_eq_error_iff, reduceCtorEq, and_false,
      exists_false, or_false]

end ConditionDraft

/-- A ticket has a priority above a threshold or is handled by support, it is tagged as urgent, and
its owner is in charge of operations. -/
def Fixture.escalation (threshold : Literal) : ConditionDraft :=
  .all
    [.any [.parameter "priority" .greaterThan (.literal threshold), .memberOf "support"],
      .comparison .includes (.parameter "tags") (.literal (.string "urgent")),
      .userProperty (.parameter "owner") .email .startsWith (.literal (.string "operations"))]

namespace ConditionDraft

/-- A threshold for an escalation has to be a whole number, as the priority is one. -/
theorem compile_wellFormed_escalation :
    (∀ comparison ∈ (Fixture.escalation (.integer 3)).comparisons,
      comparison.WellFormed Fixture.triage) ∧
    ∃ comparison ∈ (Fixture.escalation (.string "three")).comparisons,
      comparison.Fault Fixture.triage
        (.conditionValueMismatch "priority" .integer (.string "three")) := by
  constructor
  · have hcompile : (Fixture.escalation (.integer 3)).compile Fixture.triage =
        .ok (Fixture.escalation (.integer 3)).canonical := rfl
    exact (((compile_wellFormed _ _).1 _).mp hcompile).1
  · have hrefused : (Fixture.escalation (.string "three")).compile Fixture.triage =
        .error (.conditionValueMismatch "priority" .integer (.string "three")) := rfl
    obtain ⟨before, comparison, after, hsplit, -, hfault⟩ :=
      ((compile_wellFormed _ _).2 _).mp hrefused
    refine ⟨comparison, ?_, hfault⟩
    rw [hsplit]
    exact List.mem_append_right before List.mem_cons_self

/-! ### Other forms of a condition -/

variable {scope : Scope} {leaf : ConditionDraft} {comparison : Comparison}

theorem compile_asComparisons_leaf (h : leaf.comparison? = some comparison) :
    leaf.asComparisons.compile scope = leaf.compile scope := by
  have hwritten : leaf.asComparisons =
      .comparison comparison.operator comparison.left comparison.right := by
    cases leaf <;> cases h <;> rfl
  rw [hwritten, compile_of_comparison? h]
  rfl

mutual

/-- It makes no difference whether leaves are written as the comparisons that they make. -/
theorem compile_asComparisons (scope : Scope) : ∀ draft : ConditionDraft,
    draft.asComparisons.compile scope = draft.compile scope
  | .always => rfl
  | .memberOf group => compile_asComparisons_leaf rfl
  | .parameter id operator value => compile_asComparisons_leaf rfl
  | .userProperty user property operator value => compile_asComparisons_leaf rfl
  | .comparison operator left right => compile_asComparisons_leaf rfl
  | .all conditions => by
    rw [asComparisons, compile, compile, compileAll_asComparisons scope conditions]
  | .any conditions => by
    rw [asComparisons, compile, compile, compileAll_asComparisons scope conditions]

theorem compileAll_asComparisons (scope : Scope) : ∀ drafts : List ConditionDraft,
    compileAll scope (allAsComparisons drafts) = compileAll scope drafts
  | [] => rfl
  | draft :: rest => by
    rw [allAsComparisons, compileAll, compileAll, compile_asComparisons scope draft,
      compileAll_asComparisons scope rest]

end

mutual

/-- The canonical form of a condition, read back, is the condition with its leaves written as the
comparisons that they make. -/
theorem draft_canonical : ∀ draft : ConditionDraft, draft.canonical.draft = draft.asComparisons
  | .always | .memberOf _ | .parameter _ _ _ | .userProperty _ _ _ _ | .comparison _ _ _ => rfl
  | .all conditions => by
    rw [canonical, Condition.draft, asComparisons, draftAll_canonicalAll conditions]
  | .any conditions => by
    rw [canonical, Condition.draft, asComparisons, draftAll_canonicalAll conditions]

theorem draftAll_canonicalAll : ∀ drafts : List ConditionDraft,
    Condition.draftAll (canonicalAll drafts) = allAsComparisons drafts
  | [] => rfl
  | draft :: rest => by
    rw [canonicalAll, Condition.draftAll, allAsComparisons, draft_canonical draft,
      draftAll_canonicalAll rest]

end

/-- However the leaves of a condition are written, it compiles to the same condition or is refused
for the same reason; and a canonical form that comes out compiles to itself. -/
theorem compile_otherForms (scope : Scope) (draft : ConditionDraft) :
    draft.asComparisons.compile scope = draft.compile scope ∧
      ∀ condition, draft.compile scope = .ok condition →
        condition.draft.compile scope = .ok condition := by
  have hsame : draft.asComparisons.compile scope = draft.compile scope :=
    compile_asComparisons scope draft
  refine ⟨hsame, fun condition hcompile ↦ ?_⟩
  have hcanonical : draft.canonical = condition := by
    rw [compile_eq, bind_eq_ok_iff] at hcompile
    obtain ⟨_, -, hcondition⟩ := hcompile
    exact Except.ok.inj hcondition
  calc condition.draft.compile scope
      = draft.canonical.draft.compile scope := by rw [hcanonical]
    _ = draft.asComparisons.compile scope := by rw [draft_canonical]
    _ = draft.compile scope := hsame
    _ = .ok condition := hcompile

/-- An escalation compiles, and again from what comes out. -/
theorem compile_otherForms_escalation :
    ∃ condition, (Fixture.escalation (.integer 3)).compile Fixture.triage = .ok condition ∧
      condition.draft.compile Fixture.triage = .ok condition := by
  have hcompile : (Fixture.escalation (.integer 3)).compile Fixture.triage =
      .ok (Fixture.escalation (.integer 3)).canonical := rfl
  exact ⟨_, hcompile, (compile_otherForms _ _).2 _ hcompile⟩

end ConditionDraft

end Ontology
