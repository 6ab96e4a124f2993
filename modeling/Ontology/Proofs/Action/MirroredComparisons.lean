import Ontology.Proofs.Action.CanonicalForm

/-!
Comparisons that are turned around. Most operators have a mirror, which says the same with the sides
exchanged (`Operator.mirror?`): what is less than a value is what the value is greater than, and a
list includes what is included in it. The check of comparisons does not turn the operator around
with the sides. A literal is asked for the same type on either side (`wellFormed_swap_iff`), so on
the left of `includes` it is asked for an item, where it stands for the list.

For operators that compare values of one type this makes no difference. For the other two,
`compile_mirrored_iff` says when a comparison and its mirror image are accepted or refused together:
when the literal is a value of the item type and a list of the type, or neither.
-/

set_option autoImplicit false
set_option relaxedAutoImplicit false

namespace Ontology

open Outcome

variable {scope : Scope} {operator mirrored : Operator} {operand : Operand} {subject : String}
  {type : ParameterType} {value : Literal}

/-! ### Mirrors -/

namespace Operator

/-- The operator that says the same with the sides exchanged. A text that matches a pattern or
starts with another one is not turned around by any operator. -/
def mirror? : Operator → Option Operator
  | .equals => some .equals
  | .notEquals => some .notEquals
  | .lessThan => some .greaterThan
  | .lessThanOrEquals => some .greaterThanOrEquals
  | .greaterThan => some .lessThan
  | .greaterThanOrEquals => some .lessThanOrEquals
  | .intersects => some .intersects
  | .includes => some .isIncludedIn
  | .isIncludedIn => some .includes
  | .matchesPattern | .startsWith => none

/-- The operators between lists and their items. -/
def IsMembership (operator : Operator) : Prop :=
  operator = .includes ∨ operator = .isIncludedIn

/-- An operator and its mirror ask for the same type, but for membership: there one asks for an item
and the other for a list, and they agree on the literals that are both or neither. -/
theorem admits_mirror_iff (h : operator.mirror? = some mirrored) :
    ((operator.literalType type).admits value ↔ (mirrored.literalType type).admits value) ↔
      (operator.IsMembership →
        (type.itemType.admits value ↔ (ParameterType.list type).admits value)) := by
  cases operator with
  | includes =>
    cases h
    have hmember : IsMembership .includes := Or.inl rfl
    exact (imp_iff_right hmember).symm
  | isIncludedIn =>
    cases h
    have hmember : IsMembership .isIncludedIn := Or.inr rfl
    exact iff_comm.trans (imp_iff_right hmember).symm
  | matchesPattern | startsWith => cases h
  | _ =>
    cases h
    exact iff_of_true Iff.rfl (by rintro (hmember | hmember) <;> cases hmember)

end Operator

/-! ### Sides exchanged -/

namespace Comparison

variable {comparison : Comparison}

/-- The comparison with its sides exchanged, under the same operator. -/
def swap (comparison : Comparison) : Comparison :=
  ⟨comparison.operator, comparison.right, comparison.left⟩

theorem mem_parameters_swap_iff {id : String} :
    id ∈ comparison.swap.parameters ↔ id ∈ comparison.parameters := by
  rw [parameters, parameters, List.mem_append, List.mem_append]
  exact or_comm

theorem Against.swap (h : comparison.Against scope subject type value) :
    comparison.swap.Against scope subject type value := by
  cases h with
  | right htype => exact .left htype
  | left htype => exact .right htype

theorem WellFormed.swap (h : comparison.WellFormed scope) : comparison.swap.WellFormed scope where
  declared id hid := h.declared id (mem_parameters_swap_iff.mp hid)
  literal subject type value hagainst := h.literal subject type value hagainst.swap

/-- A literal is asked for the same type on either side. -/
theorem wellFormed_swap_iff : comparison.swap.WellFormed scope ↔ comparison.WellFormed scope :=
  ⟨WellFormed.swap, WellFormed.swap⟩

/-- A literal on the right of a typed side is well placed when the parameter behind that side is
declared and the literal has the type that the operator asks for. -/
theorem wellFormed_literal_iff (hside : operand.HasType scope subject type) :
    (⟨operator, operand, .literal value⟩ : Comparison).WellFormed scope ↔
      (∀ id, operand.parameter? = some id → scope.declares id) ∧
        (operator.literalType type).admits value := by
  constructor
  · intro h
    have hdeclared := (forall_mem_parameters_iff.mp h.declared).1
    exact ⟨hdeclared, h.literal _ _ _ (.right hside) _ (Operator.asks_iff.mpr rfl)⟩
  · rintro ⟨hdeclared, hadmits⟩
    refine ⟨forall_mem_parameters_iff.mpr ⟨hdeclared, nofun⟩,
      fun _ _ _ hagainst expected hasks ↦ ?_⟩
    obtain ⟨rfl, rfl, rfl⟩ := hagainst.unique (.right hside)
    rwa [← Operator.asks_iff.mp hasks]

end Comparison

/-! ### Compilation -/

namespace ConditionDraft

/-- A condition passes when it has a canonical form over the parameters in scope. -/
def Passes (scope : Scope) (draft : ConditionDraft) : Prop :=
  ∃ condition, draft.compile scope = .ok condition

/-- A comparison passes when it is well formed. -/
theorem passes_comparison_iff {left right : Operand} :
    (comparison operator left right).Passes scope ↔
      (⟨operator, left, right⟩ : Comparison).WellFormed scope := by
  have hcompile : (comparison operator left right).compile scope =
      (⟨operator, left, right⟩ : Comparison).check scope >>= fun _ ↦
        .ok (.comparison operator left right) :=
    compile_of_comparison? rfl
  simp only [Passes, hcompile, bind_eq_ok_iff, exists_unit_eq_ok_and_iff,
    Comparison.check_eq_ok_iff, exists_and_left]
  exact and_iff_left ⟨_, rfl⟩

/-- A literal passes on the left of a typed side as it does on the right, under the same operator. A
comparison and its mirror image pass together exactly when membership is not what they state, or the
literal is both a value of the item type and a list of the type, or neither. -/
theorem compile_mirrored_iff (hmirror : operator.mirror? = some mirrored)
    (hside : operand.HasType scope subject type) (value : Literal) :
    ((comparison operator (.literal value) operand).Passes scope ↔
        (comparison operator operand (.literal value)).Passes scope) ∧
      (((comparison operator (.literal value) operand).Passes scope ↔
          (comparison mirrored operand (.literal value)).Passes scope) ↔
        ((∀ id, operand.parameter? = some id → scope.declares id) → operator.IsMembership →
          (type.itemType.admits value ↔ (ParameterType.list type).admits value))) := by
  have hswap : (comparison operator (.literal value) operand).Passes scope ↔
      (comparison operator operand (.literal value)).Passes scope := by
    have hsame : (⟨operator, operand, .literal value⟩ : Comparison).swap.WellFormed scope ↔
        (⟨operator, operand, .literal value⟩ : Comparison).WellFormed scope :=
      Comparison.wellFormed_swap_iff
    rw [passes_comparison_iff, passes_comparison_iff]
    exact hsame
  refine ⟨hswap, ?_⟩
  rw [hswap, passes_comparison_iff, passes_comparison_iff,
    Comparison.wellFormed_literal_iff hside, Comparison.wellFormed_literal_iff hside,
    and_congr_right_iff, Operator.admits_mirror_iff hmirror]

/-- That a text is one of the tags is refused, while that the tags include it is accepted. -/
theorem compile_mirrored_iff_urgent :
    ¬ ((comparison .isIncludedIn (.literal (.string "urgent")) (.parameter "tags")).Passes
          Fixture.triage ↔
        (comparison .includes (.parameter "tags") (.literal (.string "urgent"))).Passes
          Fixture.triage) := by
  have hside : (Operand.parameter "tags").HasType Fixture.triage "tags" (.list .string) :=
    .parameter (by decide)
  have hmirror : Operator.isIncludedIn.mirror? = some .includes := rfl
  rw [(compile_mirrored_iff hmirror hside (.string "urgent")).2]
  intro hagree
  have hdeclared (id : String) (hid : (Operand.parameter "tags").parameter? = some id) :
      Fixture.triage.declares id := by
    cases hid
    decide
  have hlist := (hagree hdeclared (.inr rfl)).mp rfl
  cases hlist

/-- A number is said to include a number, while the number is not said to be one of it. -/
theorem not_forall_mirrored :
    ¬ ∀ (scope : Scope) (operator mirrored : Operator) (operand : Operand) (subject : String)
        (type : ParameterType) (value : Literal),
      operator.mirror? = some mirrored → operand.HasType scope subject type →
        ((comparison operator (.literal value) operand).Passes scope ↔
          (comparison mirrored operand (.literal value)).Passes scope) := by
  intro hall
  have hside : (Operand.parameter "priority").HasType Fixture.triage "priority" .integer :=
    .parameter (by decide)
  have hpasses : (comparison .includes (.literal (.integer 3)) (.parameter "priority")).Passes
      Fixture.triage :=
    ⟨_, rfl⟩
  obtain ⟨condition, hcondition⟩ :=
    (hall _ .includes .isIncludedIn _ _ _ _ rfl hside).mp hpasses
  cases hcondition

end ConditionDraft

end Ontology
