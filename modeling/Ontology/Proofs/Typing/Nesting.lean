import Ontology.Parameter
import Mathlib.Data.Nat.Notation
import Mathlib.Logic.Function.Iterate

/-!
Nested types. `depth` counts the arrays of a property type, or the lists of a parameter type, and
`innermost` is the type inside all of them. `nesting_commutes` says that the parameter for a
property is found by way of the innermost types: only vectors have none, and any other type gets a
list for each of its arrays. Lists around a type change nothing in the default settings of a
parameter but how requiredness is written.

What stands in the fields of a structure does not count. A structure is passed on as it is, even
with a field that is a vector.
-/

set_option autoImplicit false
set_option relaxedAutoImplicit false

namespace Ontology

/-! ### Property types -/

namespace PropertyType

/-- How many arrays stand around the innermost type. -/
def depth : PropertyType → ℕ
  | .array item => item.depth + 1
  | _ => 0

/-- The element type of the innermost array, or the type itself if it is no array. -/
def innermost : PropertyType → PropertyType
  | .array item => item.innermost
  | type => type

end PropertyType

/-! ### Parameter types -/

namespace ParameterType

/-- How many lists stand around the innermost type. -/
def depth : ParameterType → ℕ
  | .list item => item.depth + 1
  | _ => 0

/-- The element type of the innermost list, or the type itself if it is no list. -/
def innermost : ParameterType → ParameterType
  | .list item => item.innermost
  | type => type

/-- A type is its innermost type with lists around it. -/
theorem iterate_list_innermost (type : ParameterType) :
    ParameterType.list^[type.depth] type.innermost = type := by
  induction type with
  | list item ih => rw [depth, innermost, Function.iterate_succ_apply', ih]
  | _ => rfl

theorem renderHint_iterate_list (item : ParameterType) (depth : ℕ) :
    (ParameterType.list^[depth] item).renderHint = item.renderHint := by
  induction depth with
  | zero => rfl
  | succ depth ih => rw [Function.iterate_succ_apply', renderHint, ih]

theorem allowedValues_iterate_list (item : ParameterType) (depth : ℕ) :
    (ParameterType.list^[depth] item).allowedValues = item.allowedValues := by
  induction depth with
  | zero => rfl
  | succ depth ih => rw [Function.iterate_succ_apply', allowedValues, ih]

/-- Around a type, lists change the requirement of the default settings and nothing else. -/
theorem defaultBlock_iterate_list (item : ParameterType) (depth : ℕ) (required other : Bool) :
    (ParameterType.list^[depth] item).defaultBlock required =
      { item.defaultBlock other with
        requirement := (ParameterType.list^[depth] item).requirement required none none } := by
  rw [defaultBlock, defaultBlock, renderHint_iterate_list, allowedValues_iterate_list]

end ParameterType

/-! ### Parameters for properties -/

theorem ScalarType.parameterType?_eq_none_iff {type : ScalarType} :
    type.parameterType? = none ↔ type = .vector := by
  cases type <;> simp [parameterType?]

namespace PropertyType

variable {type : PropertyType} {filler : ParameterType}

theorem parameterType?_eq_none_iff :
    type.parameterType? = none ↔ type.innermost = .scalar .vector := by
  induction type using parameterType?.induct with
  | case1 type => simp [parameterType?, innermost, ScalarType.parameterType?_eq_none_iff]
  | case2 fields => simp [parameterType?, innermost]
  | case3 item ih => rw [parameterType?, Option.map_eq_none_iff, ih, innermost]

/-- The parameter for a property has a list for every array, and inside them the type of the
parameter for the innermost type. -/
theorem nesting_of_parameterType? (h : type.parameterType? = some filler) :
    filler.depth = type.depth ∧ type.innermost.parameterType? = some filler.innermost := by
  induction type using parameterType?.induct generalizing filler with
  | case1 type => cases type <;> cases h <;> exact ⟨rfl, rfl⟩
  | case2 fields =>
    cases h
    exact ⟨rfl, rfl⟩
  | case3 item ih =>
    obtain ⟨inner, hinner, rfl⟩ := Option.map_eq_some_iff.mp h
    obtain ⟨hdepth, hinnermost⟩ := ih hinner
    exact ⟨congrArg (· + 1) hdepth, hinnermost⟩

/-- A property has no parameter exactly when its innermost type is that of vectors. The parameter of
any other property has as many lists as the property has arrays, around the type of the parameter
for the innermost type, and the fields of a structure stay as they are. Lists around any type keep
the default settings of a parameter, whatever its requiredness is, but for the requirement, which
becomes a bound on the length. -/
theorem nesting_commutes (type : PropertyType) :
    (type.parameterType? = none ↔ type.innermost = .scalar .vector) ∧
    (∀ filler, type.parameterType? = some filler →
      filler.depth = type.depth ∧ type.innermost.parameterType? = some filler.innermost ∧
        ∀ fields, type.innermost = .struct fields → filler.innermost = .struct fields) ∧
    ∀ (item : ParameterType) (depth : ℕ) (required other : Bool),
      (ParameterType.list^[depth + 1] item).defaultBlock required =
        { item.defaultBlock other with
          requirement := .listLength (if required then some 1 else none) none } := by
  refine ⟨parameterType?_eq_none_iff, fun filler h ↦ ?_, fun item depth required other ↦ ?_⟩
  · obtain ⟨hdepth, hinnermost⟩ := nesting_of_parameterType? h
    refine ⟨hdepth, hinnermost, fun fields hfields ↦ ?_⟩
    rw [hfields] at hinnermost
    exact (Option.some.inj hinnermost).symm
  · rw [ParameterType.defaultBlock_iterate_list item (depth + 1) required other,
      Function.iterate_succ_apply']
    rfl

/-- Lists of lists of readings are entered as such, and a reading may hold an embedding that no form
can enter on its own. -/
theorem nesting_commutes_readings :
    let fields := [("at", scalar .timestamp), ("embedding", .array (.scalar .vector))]
    (array (array (struct fields))).parameterType? = some (.list (.list (.struct fields))) ∧
      (ParameterType.list (.list (.struct fields))).depth = 2 ∧
      (ParameterType.list (.list (.struct fields))).innermost = .struct fields ∧
      (ParameterType.list (.list (.struct fields))).defaultBlock true =
        { (ParameterType.struct fields).defaultBlock false with
          requirement := .listLength (some 1) none } := by
  intro fields
  obtain ⟨-, hfiller, hsettings⟩ := nesting_commutes (array (array (struct fields)))
  obtain ⟨hdepth, -, hfields⟩ := hfiller (.list (.list (.struct fields))) rfl
  exact ⟨rfl, hdepth, hfields fields rfl, hsettings (.struct fields) 1 true false⟩

end PropertyType

end Ontology
