import Ontology.Proofs.Emission.Dumps

/-!
Which values agree with themselves. Dumps are compared by `==`, and the comparison goes down to the
doubles, of which NaN differs from itself. So whether a value agrees with itself is a matter of the
literals in it: lists, options and tables agree with themselves when their items do, each part of an
action when its literals do, and a literal when none of its doubles is NaN. A dump agrees with
itself exactly when there is no NaN in it (`Dump.beq_self_iff`).

Records are compared field by field, in the order of their fields; `change` puts the conjunction in
place of the comparison.
-/

set_option autoImplicit false
set_option relaxedAutoImplicit false

namespace Ontology

/-! ### Doubles and literals -/

/-- NaN is the one double that differs from itself. -/
theorem float_beq_self (value : Float) : (value == value) = !value.isNaN := by
  change value.toModel.unpack.beq value.toModel.unpack = !value.toModel.unpack.isNaN
  cases value.toModel.unpack with
  | notANumber => rfl
  | infinity sign | zero sign => cases sign <;> rfl
  | finite sign mantissa exponent hpositive =>
    have hsame : (compare exponent exponent).then (compare mantissa mantissa) = .eq := by simp
    cases sign with
    | positive =>
      change (some (Ordering.then _ _) == some .eq) = true
      rw [hsame]
      rfl
    | negative =>
      change (some (Ordering.then _ _).swap == some .eq) = true
      rw [hsame]
      rfl

namespace Literal

mutual

/-- A literal agrees with itself when none of its doubles is NaN. -/
theorem agrees_self_iff : ∀ literal : Literal,
    agrees literal literal ↔ ∀ value ∈ literal.doubles, ¬ value.isNaN
  | .null | .boolean _ | .integer _ | .string _ | .date _ | .timestamp _ => by
    simp [agrees, doubles]
  | .double value => by simp [agrees, doubles, float_beq_self]
  | .list items => by simp only [agrees, doubles, agreesAll_self_iff items]

theorem agreesAll_self_iff : ∀ items : List Literal,
    agreesAll items items ↔ ∀ value ∈ doublesOfAll items, ¬ value.isNaN
  | [] => by simp [agreesAll, doublesOfAll]
  | item :: rest => by
    rw [agreesAll, doublesOfAll, Bool.and_eq_true, agrees_self_iff item, agreesAll_self_iff rest,
      List.forall_mem_append]

end

end Literal

/-! ### Containers -/

section Containers

variable {α : Type} [BEq α]

theorem list_beq_self_iff {items : List α} : items == items ↔ ∀ item ∈ items, item == item := by
  induction items with
  | nil => simp
  | cons item rest ih => rw [List.cons_beq_cons, Bool.and_eq_true, ih, List.forall_mem_cons]

theorem option_beq_self_iff {value : Option α} :
    value == value ↔ ∀ item ∈ value.toList, item == item := by
  cases value with
  | none => simp
  | some item => simp

theorem Table.beq_self_iff {table : Table α} :
    table == table ↔ ∀ entry ∈ table.entries, entry.2 == entry.2 := by
  have hentry (entry : Identifier × α) : entry == entry ↔ entry.2 == entry.2 := by
    change (entry.1 == entry.1 && entry.2 == entry.2) = true ↔ _
    rw [beq_self_eq_true, Bool.true_and]
  simp only [← hentry]
  exact list_beq_self_iff

end Containers

/-! ### Parts of an action -/

theorem Operand.beq_self_iff {operand : Operand} :
    operand == operand ↔ ∀ value ∈ operand.literals, value == value := by
  cases operand with
  | literal value =>
    rw [literals, List.forall_mem_singleton]
    rfl
  | parameter id => exact iff_of_true (beq_self_eq_true id) nofun
  | userProperty user property =>
    refine iff_of_true ?_ nofun
    change (user == user && property == property) = true
    simp

namespace Condition

mutual

theorem agrees_self_iff : ∀ condition : Condition,
    agrees condition condition ↔ ∀ value ∈ condition.literals, value == value
  | .always => by simp [agrees, literals]
  | .comparison operator left right => by
    simp only [agrees, literals, beq_self_eq_true, Bool.true_and, Bool.and_eq_true,
      Operand.beq_self_iff, List.forall_mem_append]
  | .all conditions | .any conditions => by
    simp only [agrees, literals, agreesAll_self_iff conditions]

theorem agreesAll_self_iff : ∀ conditions : List Condition,
    agreesAll conditions conditions ↔ ∀ value ∈ literalsOfAll conditions, value == value
  | [] => by simp [agreesAll, literalsOfAll]
  | condition :: rest => by
    rw [agreesAll, literalsOfAll, Bool.and_eq_true, agrees_self_iff condition,
      agreesAll_self_iff rest, List.forall_mem_append]

end

theorem beq_self_iff {condition : Condition} :
    condition == condition ↔ ∀ value ∈ condition.literals, value == value :=
  agrees_self_iff condition

end Condition

theorem AllowedValues.beq_self_iff {allowed : AllowedValues} :
    allowed == allowed ↔ ∀ value ∈ allowed.literals, value == value := by
  cases allowed with
  | range min max | datetime min max =>
    change (min == min && max == max) = true ↔ _
    simp only [Bool.and_eq_true, option_beq_self_iff, literals, List.forall_mem_append]
  | oneOf values => exact list_beq_self_iff
  | text minLength maxLength =>
    refine iff_of_true ?_ nofun
    change (minLength == minLength && maxLength == maxLength) = true
    simp
  | struct fields => exact iff_of_true (beq_self_eq_true fields) nofun
  | objectQuery type | interfaceObjectQuery type | objectSet type =>
    exact iff_of_true (beq_self_eq_true type) nofun
  | objectTypeReference types => exact iff_of_true (beq_self_eq_true types) nofun
  | _ => exact iff_of_true rfl nofun

theorem Prefill.beq_self_iff {prefilled : Prefill} :
    prefilled == prefilled ↔ ∀ value ∈ prefilled.literals, value == value := by
  cases prefilled with
  | literal value =>
    rw [literals, List.forall_mem_singleton]
    rfl
  | objectProperty parameter property =>
    refine iff_of_true ?_ nofun
    change (parameter == parameter && property == property) = true
    simp
  | currentUser | currentTime => exact iff_of_true rfl nofun

theorem ValidationBlock.beq_self_iff {block : ValidationBlock} :
    block == block ↔ ∀ value ∈ block.literals, value == value := by
  change (_ && (_ && (_ && (_ && _)))) = true ↔ _
  simp only [beq_self_eq_true, Bool.true_and, Bool.and_eq_true, option_beq_self_iff, literals,
    AllowedValues.beq_self_iff, Prefill.beq_self_iff, List.forall_mem_append,
    List.forall_mem_flatMap]

theorem Effect.beq_self_iff {effect : Effect} :
    effect == effect ↔ ∀ value ∈ effect.literals, value == value := by
  cases effect with
  | prefilled value => exact Prefill.beq_self_iff
  | allowedValues allowed => exact AllowedValues.beq_self_iff
  | visibility visibility => exact iff_of_true (beq_self_eq_true visibility) nofun
  | requirement requirement => exact iff_of_true (beq_self_eq_true requirement) nofun

theorem ConditionalEffects.beq_self_iff {change : ConditionalEffects} :
    change == change ↔ ∀ value ∈ change.literals, value == value := by
  change (_ && _) = true ↔ _
  simp only [Bool.and_eq_true, list_beq_self_iff, literals, Condition.beq_self_iff,
    Effect.beq_self_iff, List.forall_mem_append, List.forall_mem_flatMap]

theorem ParameterValidation.beq_self_iff {validation : ParameterValidation} :
    validation == validation ↔ ∀ value ∈ validation.literals, value == value := by
  change (_ && _) = true ↔ _
  simp only [Bool.and_eq_true, list_beq_self_iff, literals, ValidationBlock.beq_self_iff,
    ConditionalEffects.beq_self_iff, List.forall_mem_append, List.forall_mem_flatMap]

theorem Parameter.beq_self_iff {parameter : Parameter} :
    parameter == parameter ↔ ∀ value ∈ parameter.validation.literals, value == value := by
  change (_ && (_ && (_ && (_ && _)))) = true ↔ _
  simp only [beq_self_eq_true, Bool.true_and, ParameterValidation.beq_self_iff]

/-! ### Rules and the form -/

theorem ValueSource.beq_self_iff {source : ValueSource} :
    source == source ↔ ∀ value ∈ source.literals, value == value := by
  cases source with
  | literal value =>
    rw [literals, List.forall_mem_singleton]
    rfl
  | parameter id => exact iff_of_true (beq_self_eq_true id) nofun
  | objectProperty parameter property =>
    refine iff_of_true ?_ nofun
    change (parameter == parameter && property == property) = true
    simp
  | currentUser | currentTime => exact iff_of_true rfl nofun

theorem ObjectBinding.beq_self_iff {binding : ObjectBinding} :
    binding == binding ↔ ∀ value ∈ binding.value.literals, value == value := by
  change (_ && _) = true ↔ _
  simp only [beq_self_eq_true, Bool.true_and, ValueSource.beq_self_iff]

theorem InterfaceBinding.beq_self_iff {binding : InterfaceBinding} :
    binding == binding ↔ ∀ value ∈ binding.value.literals, value == value := by
  change (_ && _) = true ↔ _
  simp only [beq_self_eq_true, Bool.true_and, ValueSource.beq_self_iff]

theorem Rule.beq_self_iff {rule : Rule} :
    rule == rule ↔ ∀ value ∈ rule.literals, value == value := by
  cases rule with
  | addObject target values | modifyObject target values | addOrModifyObject target values =>
    change (target == target && values == values) = true ↔ _
    simp only [beq_self_eq_true, Bool.true_and, list_beq_self_iff, literals,
      ObjectBinding.beq_self_iff, List.forall_mem_flatMap]
  | addInterface interfaceType objectType values =>
    change (interfaceType == interfaceType && (objectType == objectType && values == values)) =
      true ↔ _
    simp only [beq_self_eq_true, Bool.true_and, list_beq_self_iff, literals,
      InterfaceBinding.beq_self_iff, List.forall_mem_flatMap]
  | modifyInterface interfaceType target objectType values =>
    change (interfaceType == interfaceType && (target == target &&
      (objectType == objectType && values == values))) = true ↔ _
    simp only [beq_self_eq_true, Bool.true_and, list_beq_self_iff, literals,
      InterfaceBinding.beq_self_iff, List.forall_mem_flatMap]
  | deleteObject target => exact iff_of_true (beq_self_eq_true target) nofun

theorem SectionOverride.beq_self_iff {change : SectionOverride} :
    change == change ↔ ∀ value ∈ change.condition.literals, value == value := by
  change (_ && _) = true ↔ _
  simp only [beq_self_eq_true, Bool.and_true, Condition.beq_self_iff]

theorem SectionValidation.beq_self_iff {validation : SectionValidation} :
    validation == validation ↔ ∀ value ∈ validation.literals, value == value := by
  change (_ && (_ && _)) = true ↔ _
  simp only [beq_self_eq_true, Bool.true_and, list_beq_self_iff, literals,
    SectionOverride.beq_self_iff, List.forall_mem_flatMap]

theorem SubmissionRule.beq_self_iff {rule : SubmissionRule} :
    rule == rule ↔ ∀ value ∈ rule.condition.literals, value == value := by
  change (_ && _) = true ↔ _
  simp only [beq_self_eq_true, Bool.and_true, Condition.beq_self_iff]

theorem ActionValidation.beq_self_iff {validation : ActionValidation} :
    validation == validation ↔ ∀ value ∈ validation.literals, value == value := by
  change (_ && _) = true ↔ _
  simp only [Bool.and_eq_true, list_beq_self_iff, literals, SubmissionRule.beq_self_iff,
    SectionValidation.beq_self_iff, List.forall_mem_append, List.forall_mem_flatMap]

/-! ### Dumps -/

/-- An action type agrees with itself when all its literals do. -/
theorem ActionType.beq_self_iff {action : ActionType} :
    action == action ↔ ∀ value ∈ action.literals, value == value := by
  change (_ && (_ && (_ && (_ && (_ && (_ && (_ && (_ && _)))))))) = true ↔ _
  simp only [beq_self_eq_true, Bool.true_and, Bool.and_true, Bool.and_eq_true, list_beq_self_iff,
    literals, Rule.beq_self_iff, Parameter.beq_self_iff, ActionValidation.beq_self_iff,
    List.forall_mem_append, List.forall_mem_flatMap, and_assoc]

theorem OntologyDump.beq_self_iff {dump : OntologyDump} :
    dump == dump ↔ ∀ value ∈ dump.literals, value == value := by
  change (_ && (_ && (_ && _))) = true ↔ _
  simp only [Bool.and_eq_true, Table.beq_self_iff, beq_self_eq_true, implies_true, true_and,
    literals, ActionType.beq_self_iff, List.forall_mem_flatMap]

/-- A dump agrees with itself exactly when none of its doubles is NaN. -/
theorem Dump.beq_self_iff {dump : Dump} :
    dump == dump ↔ ∀ value ∈ dump.doubles, ¬ value.isNaN := by
  change (_ && (_ && (_ && (_ && (_ && _))))) = true ↔ _
  simp only [Bool.and_eq_true, Table.beq_self_iff, beq_self_eq_true, implies_true, and_true,
    doubles, OntologyDump.beq_self_iff, List.forall_mem_append, List.forall_mem_flatMap,
    ← Literal.agrees_self_iff]
  rfl

end Ontology
