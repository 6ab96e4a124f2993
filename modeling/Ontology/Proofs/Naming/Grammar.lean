import Ontology.Proofs.Naming.Qualification
import Mathlib.Computability.Language

/-!
The names that are accepted, as languages. A segment is a letter and then any number of letters,
digits, underscores and hyphens (`segments`), a qualified name is a segment with any number of
further ones behind it, each after a dot (`qualifiedNames`), and an api name is a lower-case letter
and then letters, digits and underscores (`apiNames`). These are built from ranges of characters,
products and Kleene stars alone.

The checks read a text from left to right and keep only whether a segment is open.
`check_eq_ok_iff_grammar` says that they accept these languages and nothing else, and that a
qualified name is a text whose parts between the dots are segments. Both go from one part to the
next: a dot splits a text (`opensSegment_iff_splitOn`), and words without the separator can be read
off their joined text (`mem_joined_iff`).
-/

set_option autoImplicit false
set_option relaxedAutoImplicit false

namespace Ontology

open scoped Computability

/-! ### Languages of names -/

/-- Whether a character lies in one of the ranges, their ends included. -/
def InRanges (ranges : List (Char × Char)) (c : Char) : Prop :=
  ∃ range ∈ ranges, range.1 ≤ c ∧ c ≤ range.2

/-- The texts of one character from the ranges. -/
def oneOf (ranges : List (Char × Char)) : Language Char :=
  {word | ∃ c, InRanges ranges c ∧ word = [c]}

/-- One or more words of a language with a separator between them. -/
def joined (separator : Char) (words : Language Char) : Language Char :=
  words * ({[separator]} * words)∗

/-- A letter, then letters, digits, underscores and hyphens. -/
def segments : Language Char :=
  oneOf [('A', 'Z'), ('a', 'z')] *
    (oneOf [('A', 'Z'), ('a', 'z'), ('0', '9'), ('_', '_'), ('-', '-')])∗

/-- One or more segments with dots between them. -/
def qualifiedNames : Language Char := joined '.' segments

/-- A lower-case letter, then letters, digits and underscores. -/
def apiNames : Language Char :=
  oneOf [('a', 'z')] * (oneOf [('A', 'Z'), ('a', 'z'), ('0', '9'), ('_', '_')])∗

/-! ### Words of one kind of characters -/

section Characters

variable {ranges others : List (Char × Char)} {word : List Char} {c : Char}

theorem mem_kstar_oneOf_iff : word ∈ (oneOf ranges)∗ ↔ ∀ c ∈ word, InRanges ranges c := by
  rw [Language.mem_kstar]
  constructor
  · rintro ⟨parts, rfl, hparts⟩ c hc
    obtain ⟨part, hpart, hc⟩ := List.mem_flatten.mp hc
    obtain ⟨only, honly, rfl⟩ := hparts part hpart
    rwa [List.mem_singleton.mp hc]
  · intro h
    refine ⟨word.map fun c ↦ [c], by simp [← List.flatMap_def], ?_⟩
    intro part hpart
    obtain ⟨c, hc, rfl⟩ := List.mem_map.mp hpart
    exact ⟨c, h c hc, rfl⟩

/-- A first character of one kind, and any number of another kind behind it. -/
theorem mem_oneOf_mul_kstar_iff :
    word ∈ oneOf ranges * (oneOf others)∗ ↔
      ∃ first rest, word = first :: rest ∧ InRanges ranges first ∧
        ∀ c ∈ rest, InRanges others c := by
  rw [Language.mem_mul]
  constructor
  · rintro ⟨_, ⟨first, hfirst, rfl⟩, rest, hrest, rfl⟩
    exact ⟨first, rest, rfl, hfirst, mem_kstar_oneOf_iff.mp hrest⟩
  · rintro ⟨first, rest, rfl, hfirst, hrest⟩
    exact ⟨[first], ⟨first, hfirst, rfl⟩, rest, mem_kstar_oneOf_iff.mpr hrest, rfl⟩

theorem inRanges_cons_iff {range : Char × Char} :
    InRanges (range :: ranges) c ↔ (range.1 ≤ c ∧ c ≤ range.2) ∨ InRanges ranges c := by
  simp [InRanges]

theorem isUpper_iff : c.isUpper ↔ 'A' ≤ c ∧ c ≤ 'Z' :=
  decide_eq_true_iff

theorem isLower_iff : c.isLower ↔ 'a' ≤ c ∧ c ≤ 'z' := by
  refine Bool.and_eq_true_iff.trans ?_
  rw [decide_eq_true_iff, decide_eq_true_iff]
  rfl

theorem isDigit_iff : c.isDigit ↔ '0' ≤ c ∧ c ≤ '9' := by
  refine Bool.and_eq_true_iff.trans ?_
  rw [decide_eq_true_iff, decide_eq_true_iff]
  rfl

theorem isAlpha_iff : c.isAlpha ↔ c.isUpper ∨ c.isLower :=
  Bool.or_eq_true_iff

theorem isAlphanum_iff : c.isAlphanum ↔ c.isUpper ∨ c.isLower ∨ c.isDigit := by
  rw [← or_assoc, ← isAlpha_iff]
  exact Bool.or_eq_true_iff

theorem inRanges_upper_iff :
    InRanges (('A', 'Z') :: ranges) c ↔ c.isUpper ∨ InRanges ranges c := by
  rw [inRanges_cons_iff, isUpper_iff]

theorem inRanges_lower_iff :
    InRanges (('a', 'z') :: ranges) c ↔ c.isLower ∨ InRanges ranges c := by
  rw [inRanges_cons_iff, isLower_iff]

theorem inRanges_digit_iff :
    InRanges (('0', '9') :: ranges) c ↔ c.isDigit ∨ InRanges ranges c := by
  rw [inRanges_cons_iff, isDigit_iff]

theorem inRanges_single_iff {only : Char} :
    InRanges ((only, only) :: ranges) c ↔ c = only ∨ InRanges ranges c := by
  refine inRanges_cons_iff.trans (or_congr_left ⟨fun ⟨hleast, hgreatest⟩ ↦ ?_, ?_⟩)
  · exact Char.le_antisymm hgreatest hleast
  · rintro rfl
    exact ⟨Char.le_refl c, Char.le_refl c⟩

theorem not_inRanges_nil : ¬ InRanges [] c := by
  simp [InRanges]

end Characters

/-! ### Segments -/

section Segments

variable {segment : List Char} {c : Char}

theorem isSegmentChar_iff : IsSegmentChar c ↔ c.isAlphanum ∨ c = '_' ∨ c = '-' := by
  rw [IsSegmentChar, Bool.or_eq_true, Bool.or_eq_true, beq_iff_eq, beq_iff_eq, or_assoc]

theorem isSegment_iff :
    IsSegment segment ↔ ∃ first rest, segment = first :: rest ∧ first.isAlpha ∧
      ∀ c ∈ rest, c.isAlphanum ∨ c = '_' ∨ c = '-' := by
  cases segment with
  | nil => simp [IsSegment]
  | cons first rest => simp [IsSegment, isSegmentChar_iff]

theorem mem_segments_iff : segment ∈ segments ↔ IsSegment segment := by
  rw [segments, mem_oneOf_mul_kstar_iff, isSegment_iff]
  simp only [inRanges_upper_iff, inRanges_lower_iff, inRanges_digit_iff, inRanges_single_iff,
    not_inRanges_nil, or_false, isAlphanum_iff, isAlpha_iff, or_assoc]

theorem not_dot_of_isSegment (h : IsSegment segment) : '.' ∉ segment := by
  obtain ⟨first, rest, rfl, hfirst, hrest⟩ := isSegment_iff.mp h
  intro hdot
  rcases List.mem_cons.mp hdot with rfl | hdot
  · exact absurd hfirst (by decide)
  · exact absurd (hrest '.' hdot) (by decide)

/-- What reads as segments from left to right has segments between its dots. -/
theorem opensSegment_iff_splitOn (text : List Char) :
    OpensSegment text ↔ ∀ segment ∈ text.splitOn '.', IsSegment segment := by
  by_cases hdot : '.' ∈ text
  · obtain ⟨first, rest, htext, hfirst⟩ := List.eq_append_cons_of_mem hdot
    have hshorter : rest.length < text.length := by
      rw [htext, List.length_append, List.length_cons]
      omega
    rw [htext, opensSegment_append_dot_iff, opensSegment_eq_isSegment hfirst,
      opensSegment_iff_splitOn rest, List.splitOn_append_cons_self_of_not_mem hfirst,
      List.forall_mem_cons]
  · rw [opensSegment_eq_isSegment hdot, List.splitOn_eq_singleton hdot, List.forall_mem_singleton]
termination_by text.length

end Segments

/-! ### Joined words -/

section Joined

variable {separator : Char} {words : Language Char} {first rest text : List Char}

theorem mem_joined_of_mem (h : first ∈ words) : first ∈ joined separator words :=
  Language.mem_mul.mpr ⟨first, h, [], Language.nil_mem_kstar _, List.append_nil first⟩

theorem append_mem_joined (hfirst : first ∈ words) (hrest : rest ∈ joined separator words) :
    first ++ separator :: rest ∈ joined separator words := by
  obtain ⟨second, hsecond, others, hothers, rfl⟩ := Language.mem_mul.mp hrest
  obtain ⟨parts, rfl, hparts⟩ := Language.mem_kstar.mp hothers
  refine Language.append_mem_mul hfirst (Language.mem_kstar.mpr
    ⟨(separator :: second) :: parts, rfl, List.forall_mem_cons.mpr ⟨?_, hparts⟩⟩)
  exact Language.append_mem_mul (Set.mem_singleton [separator]) hsecond

theorem intercalate_mem_joined {parts : List (List Char)} (hne : parts ≠ [])
    (hparts : ∀ part ∈ parts, part ∈ words) :
    [separator].intercalate parts ∈ joined separator words := by
  induction parts with
  | nil => exact absurd rfl hne
  | cons first parts ih =>
    obtain ⟨hfirst, hrest⟩ := List.forall_mem_cons.mp hparts
    cases parts with
    | nil =>
      rw [List.intercalate_singleton]
      exact mem_joined_of_mem hfirst
    | cons second parts =>
      rw [List.intercalate_cons_cons, List.append_assoc, List.singleton_append]
      exact append_mem_joined hfirst (ih (List.cons_ne_nil second parts) hrest)

/-- The separators in front of the further words are where the text is split. -/
theorem forall_mem_splitOn (hwords : ∀ word ∈ words, separator ∉ word) (hfirst : first ∈ words)
    {parts : List (List Char)} (hparts : ∀ part ∈ parts, part ∈ {[separator]} * words) :
    ∀ word ∈ (first ++ parts.flatten).splitOn separator, word ∈ words := by
  induction parts generalizing first with
  | nil =>
    rwa [List.flatten_nil, List.append_nil, List.splitOn_eq_singleton (hwords first hfirst),
      List.forall_mem_singleton]
  | cons part parts ih =>
    obtain ⟨⟨_, rfl, second, hsecond, rfl⟩, hrest⟩ := List.forall_mem_cons.mp hparts
    rw [List.flatten_cons, List.append_assoc, List.singleton_append,
      List.splitOn_append_cons_self_of_not_mem (hwords first hfirst), List.forall_mem_cons]
    exact ⟨hfirst, ih hsecond hrest⟩

/-- Words without the separator can be read off their joined text. -/
theorem mem_joined_iff (hwords : ∀ word ∈ words, separator ∉ word) :
    text ∈ joined separator words ↔ ∀ word ∈ text.splitOn separator, word ∈ words := by
  constructor
  · intro h
    obtain ⟨first, hfirst, others, hothers, rfl⟩ := Language.mem_mul.mp h
    obtain ⟨parts, rfl, hparts⟩ := Language.mem_kstar.mp hothers
    exact forall_mem_splitOn hwords hfirst hparts
  · intro h
    have hjoined : [separator].intercalate (text.splitOn separator) ∈ joined separator words :=
      intercalate_mem_joined (List.splitOn_ne_nil separator text) h
    rwa [List.intercalate_splitOn] at hjoined

end Joined

/-! ### Accepted names -/

theorem mem_qualifiedNames_iff {text : List Char} :
    text ∈ qualifiedNames ↔ ∀ segment ∈ text.splitOn '.', IsSegment segment := by
  rw [qualifiedNames, mem_joined_iff fun _ hword ↦ not_dot_of_isSegment (mem_segments_iff.mp hword)]
  simp only [mem_segments_iff]

theorem checkApiName_eq_ok_iff {name : String} : checkApiName name = .ok () ↔ IsApiName name := by
  unfold checkApiName
  split_ifs with h <;> simp [h]

theorem isApiName_iff {name : String} :
    IsApiName name ↔ ∃ first rest, name.toList = first :: rest ∧ first.isLower ∧
      ∀ c ∈ rest, c.isAlphanum ∨ c = '_' := by
  unfold IsApiName
  split
  · next hnil => simp [hnil]
  · next first rest hcons => simp [hcons]

theorem mem_apiNames_iff {name : String} : name.toList ∈ apiNames ↔ IsApiName name := by
  rw [apiNames, mem_oneOf_mul_kstar_iff, isApiName_iff]
  simp only [inRanges_upper_iff, inRanges_lower_iff, inRanges_digit_iff, inRanges_single_iff,
    not_inRanges_nil, or_false, isAlphanum_iff, or_assoc]

/-- The check of identifiers accepts the language of qualified names: the texts that have between
their dots one or more parts, each a letter that letters, digits, underscores and hyphens follow.
The check of api names accepts the language of api names: a lower-case letter that letters, digits
and underscores follow. -/
theorem check_eq_ok_iff_grammar (text : String) :
    ((⟨text⟩ : Identifier).check = .ok () ↔ text.toList ∈ qualifiedNames) ∧
    ((⟨text⟩ : Identifier).check = .ok () ↔
      text.toList.splitOn '.' ≠ [] ∧ ∀ segment ∈ text.toList.splitOn '.',
        ∃ first rest, segment = first :: rest ∧ first.isAlpha ∧
          ∀ c ∈ rest, c.isAlphanum ∨ c = '_' ∨ c = '-') ∧
    (checkApiName text = .ok () ↔ text.toList ∈ apiNames) ∧
    (checkApiName text = .ok () ↔ ∃ first rest, text.toList = first :: rest ∧ first.isLower ∧
      ∀ c ∈ rest, c.isAlphanum ∨ c = '_') := by
  have hparts : (⟨text⟩ : Identifier).check = .ok () ↔
      ∀ segment ∈ text.toList.splitOn '.', IsSegment segment := by
    rw [Identifier.check_eq_ok_iff, Identifier.WellFormed, IsQualifiedName,
      opensSegment_iff_splitOn]
  refine ⟨hparts.trans mem_qualifiedNames_iff.symm, ?_,
    checkApiName_eq_ok_iff.trans mem_apiNames_iff.symm, checkApiName_eq_ok_iff.trans isApiName_iff⟩
  rw [hparts, and_iff_right (List.splitOn_ne_nil '.' text.toList)]
  simp only [isSegment_iff]

end Ontology
