import Ontology.LiteralTyping
import Ontology.Proofs.Typing.Nesting
import Mathlib.Algebra.Ring.Int.Defs
import Mathlib.Data.List.Basic

/-!
The typing of literals. `Literal.BelongsTo` says which literals are values of which types. No rule
is about a null, and none about the types whose values no literal can write down.

The check goes down a type and a literal at the same time. `admits_iff_belongsTo` says that it
decides the relation, and that nesting and values can be told apart: a literal is a value of a type
when its lists reach as deep as those of the type, and what stands in them at that depth belongs to
the innermost type. An empty list has nothing in it and is a value of every type of lists.

Dates and timestamps are recognised by their outline. `isDateText_iff` and `isTimestampText_iff` say
which texts these are: a date is a year, a month and a day in digits and no more, and a timestamp
may go on in any way after its `T`.
-/

set_option autoImplicit false
set_option relaxedAutoImplicit false

namespace Ontology

/-! ### Ranges of integers -/

/-- An integer is one of a number of bits with a sign. -/
def FitsSigned (bits : Nat) (value : Int64) : Prop :=
  -2 ^ (bits - 1) ≤ value.toInt ∧ value.toInt < 2 ^ (bits - 1)

instance (bits : Nat) (value : Int64) : Decidable (FitsSigned bits value) :=
  inferInstanceAs (Decidable (_ ∧ _))

theorem fitsInt32_iff {value : Int64} : FitsInt32 value ↔ FitsSigned 32 value := by
  have hleast : Int32.minValue.toInt = -2 ^ (32 - 1) := by decide
  have hgreatest : Int32.maxValue.toInt = 2 ^ (32 - 1) - 1 := by decide
  rw [FitsInt32, FitsSigned, Bool.and_eq_true, decide_eq_true_eq, decide_eq_true_eq, hleast,
    hgreatest, Int.le_sub_one_iff]

/-! ### Outlines of texts -/

/-- A number of digits and nothing else. -/
def AreDigits (count : ℕ) (chars : List Char) : Prop :=
  chars.length = count ∧ ∀ c ∈ chars, c.isDigit

/-- A year of four digits, a month of two and a day of two, with hyphens between them. -/
def IsCalendarDate (chars : List Char) : Prop :=
  ∃ year month day, AreDigits 4 year ∧ AreDigits 2 month ∧ AreDigits 2 day ∧
    chars = year ++ '-' :: (month ++ '-' :: day)

section Outlines

variable {outline chars rest : List Char} {text : String}

/-- One outline behind another is matched by what the first leaves. -/
theorem matchOutline_append (first second chars : List Char) :
    matchOutline (first ++ second) chars =
      (matchOutline first chars).bind (matchOutline second) := by
  fun_induction matchOutline first chars with
  | case1 chars => rfl
  | case2 mark outline => rfl
  | case3 mark outline c rest hmark ih => rw [List.cons_append, matchOutline, if_pos hmark, ih]
  | case4 mark outline c rest hmark =>
    rw [List.cons_append, matchOutline, if_neg hmark]
    rfl

theorem matchOutline_digit_iff :
    matchOutline ('d' :: outline) chars = some rest ↔
      ∃ c behind, c.isDigit ∧ chars = c :: behind ∧ matchOutline outline behind = some rest := by
  cases chars <;> simp [matchOutline]

theorem matchOutline_mark_iff {mark : Char} (hmark : mark ≠ 'd') :
    matchOutline (mark :: outline) chars = some rest ↔
      ∃ behind, chars = mark :: behind ∧ matchOutline outline behind = some rest := by
  cases chars <;> simp [matchOutline, hmark, and_assoc]

theorem matchOutline_digits_iff {count : ℕ} :
    matchOutline (List.replicate count 'd') chars = some rest ↔
      ∃ digits, AreDigits count digits ∧ chars = digits ++ rest := by
  induction count generalizing chars with
  | zero => simp [matchOutline, AreDigits]
  | succ count ih =>
    simp only [List.replicate_succ, matchOutline_digit_iff, ih]
    constructor
    · rintro ⟨c, _, hc, rfl, digits, ⟨hlength, hdigits⟩, rfl⟩
      exact ⟨c :: digits, ⟨congrArg (· + 1) hlength, List.forall_mem_cons.mpr ⟨hc, hdigits⟩⟩, rfl⟩
    · rintro ⟨digits, ⟨hlength, hdigits⟩, rfl⟩
      obtain ⟨c, digits, rfl⟩ := List.exists_cons_of_length_eq_add_one hlength
      obtain ⟨hc, hdigits⟩ := List.forall_mem_cons.mp hdigits
      exact ⟨c, digits ++ rest, hc, rfl, digits, ⟨Nat.succ_inj.mp hlength, hdigits⟩, rfl⟩

theorem matchOutline_date_iff :
    matchOutline "dddd-dd-dd".toList chars = some rest ↔
      ∃ date, IsCalendarDate date ∧ chars = date ++ rest := by
  have houtline : "dddd-dd-dd".toList = List.replicate 4 'd' ++
      '-' :: (List.replicate 2 'd' ++ '-' :: List.replicate 2 'd') := by decide
  have hmark : '-' ≠ 'd' := by decide
  simp only [houtline, matchOutline_append, Option.bind_eq_some_iff, matchOutline_digits_iff,
    matchOutline_mark_iff hmark]
  constructor
  · rintro ⟨_, ⟨year, hyear, rfl⟩, _, rfl, _, ⟨month, hmonth, rfl⟩, _, rfl, day, hday, rfl⟩
    exact ⟨_, ⟨year, month, day, hyear, hmonth, hday, rfl⟩, by simp⟩
  · rintro ⟨_, ⟨year, month, day, hyear, hmonth, hday, rfl⟩, rfl⟩
    exact ⟨_, ⟨year, hyear, by simp⟩, _, rfl, _, ⟨month, hmonth, rfl⟩, _, rfl, day, hday, rfl⟩

theorem isDateText_iff : IsDateText text ↔ IsCalendarDate text.toList := by
  rw [IsDateText, beq_iff_eq, matchOutline_date_iff]
  simp

theorem isTimestampText_iff :
    IsTimestampText text ↔
      ∃ date rest, IsCalendarDate date ∧ text.toList = date ++ 'T' :: rest := by
  have houtline : "dddd-dd-ddT".toList = "dddd-dd-dd".toList ++ ['T'] := by decide
  have hmark : 'T' ≠ 'd' := by decide
  simp only [IsTimestampText, Option.isSome_iff_exists, houtline, matchOutline_append,
    Option.bind_eq_some_iff, matchOutline_date_iff, matchOutline_mark_iff hmark]
  constructor
  · rintro ⟨rest, _, ⟨date, hdate, htext⟩, _, rfl, -⟩
    exact ⟨date, _, hdate, htext⟩
  · rintro ⟨date, rest, hdate, htext⟩
    exact ⟨rest, _, ⟨date, hdate, htext⟩, rest, rfl, rfl⟩

end Outlines

/-! ### Values of a type -/

/-- Which literals are values of which types. -/
inductive Literal.BelongsTo : Literal → ParameterType → Prop
  | boolean (value : Bool) : BelongsTo (.boolean value) .boolean
  | integer {value : Int64} (hfits : FitsSigned 32 value) : BelongsTo (.integer value) .integer
  | long (value : Int64) : BelongsTo (.integer value) .long
  /-- A whole number need not be written as a fraction. -/
  | whole (value : Int64) {type : ParameterType} (htype : type ∈ [.double, .decimal]) :
    BelongsTo (.integer value) type
  | double (value : Float) {type : ParameterType} (htype : type ∈ [.double, .decimal]) :
    BelongsTo (.double value) type
  /-- Users, groups and places on the map are given by a text that identifies them. -/
  | string (value : String) {type : ParameterType}
    (htype : type ∈ [.string, .user, .group, .geohash]) : BelongsTo (.string value) type
  | date {text : String} (hdate : IsCalendarDate text.toList) : BelongsTo (.date text) .date
  | timestamp {text : String} {date rest : List Char} (hdate : IsCalendarDate date)
    (htext : text.toList = date ++ 'T' :: rest) : BelongsTo (.timestamp text) .timestamp
  | list {values : List Literal} {item : ParameterType}
    (hvalues : ∀ value ∈ values, BelongsTo value item) : BelongsTo (.list values) (.list item)

namespace Literal

variable {value : Literal} {type : ParameterType}

theorem belongsTo_of_admits (h : type.admits value) : value.BelongsTo type := by
  fun_induction ParameterType.admits type value with
  | case1 value => exact .boolean value
  | case2 value => exact .integer (fitsInt32_iff.mp h)
  | case3 value => exact .long value
  | case4 value | case6 value => exact .double value (by simp)
  | case5 value | case7 value => exact .whole value (by simp)
  | case8 value | case9 value | case10 value | case11 value => exact .string value (by simp)
  | case12 text => exact .date (isDateText_iff.mp h)
  | case13 text =>
    obtain ⟨date, rest, hdate, htext⟩ := isTimestampText_iff.mp h
    exact .timestamp hdate htext
  | case14 item values ih =>
    exact .list fun value hvalue ↦ ih value (List.all_eq_true.mp h value hvalue)
  | case15 => cases h

theorem BelongsTo.admits (h : value.BelongsTo type) : type.admits value := by
  induction h with
  | boolean | long => rfl
  | integer hfits => exact fitsInt32_iff.mpr hfits
  | whole value htype | double value htype =>
    simp only [List.mem_cons, List.not_mem_nil, or_false] at htype
    rcases htype with rfl | rfl <;> rfl
  | string value htype =>
    simp only [List.mem_cons, List.not_mem_nil, or_false] at htype
    rcases htype with rfl | rfl | rfl | rfl <;> rfl
  | date hdate => exact isDateText_iff.mpr hdate
  | timestamp hdate htext => exact isTimestampText_iff.mpr ⟨_, _, hdate, htext⟩
  | list _ ih => exact List.all_eq_true.mpr ih

theorem admits_eq_true_iff : type.admits value ↔ value.BelongsTo type :=
  ⟨belongsTo_of_admits, BelongsTo.admits⟩

/-! ### Nested literals -/

/-- Whether lists reach down to a depth everywhere in a literal. -/
def isNested : ℕ → Literal → Bool
  | 0, _ => true
  | depth + 1, .list values => values.all (isNested depth)
  | _ + 1, _ => false

/-- What stands in a literal at a depth of lists, from left to right. -/
def entriesAt : ℕ → Literal → List Literal
  | 0, value => [value]
  | depth + 1, .list values => values.flatMap (entriesAt depth)
  | _ + 1, _ => []

/-- Lists around a type ask for lists around its values. -/
theorem admits_iterate_list_iff (item : ParameterType) (depth : ℕ) (value : Literal) :
    (ParameterType.list^[depth] item).admits value ↔
      value.isNested depth ∧ ∀ entry ∈ value.entriesAt depth, item.admits entry := by
  induction depth generalizing value with
  | zero => simp [isNested, entriesAt]
  | succ depth ih =>
    rw [Function.iterate_succ_apply']
    cases value with
    | list values =>
      rw [ParameterType.admits, isNested, entriesAt, List.all_eq_true, List.all_eq_true,
        List.forall_mem_flatMap]
      simp only [ih]
      exact forall₂_and
    | _ => simp [ParameterType.admits, isNested]

/-- The check of a literal decides whether it is a value of the type. -/
theorem admits_iff_belongsTo (type : ParameterType) (value : Literal) :
    (type.admits value ↔ value.BelongsTo type) ∧
    (type.admits value ↔ value.isNested type.depth ∧
      ∀ entry ∈ value.entriesAt type.depth, entry.BelongsTo type.innermost) ∧
    type.list.admits (.list []) ∧ ¬ type.admits .null := by
  refine ⟨admits_eq_true_iff, ?_, rfl, fun h ↦ ?_⟩
  · have hnested := admits_iterate_list_iff type.innermost type.depth value
    rw [type.iterate_list_innermost] at hnested
    simpa only [admits_eq_true_iff] using hnested
  · cases belongsTo_of_admits h

end Literal

end Ontology
