import Ontology.Namespace
import Mathlib.Data.List.TakeWhile

/-!
Names and what becomes of them in a namespace. A dot ends a segment and asks for another one
(`opensSegment_append_dot_iff`), so well-formed segments do not end in a dot, and a dotted text is
well formed exactly when both sides of the dot are. `Namespace.ofText_eq_ok_iff` says which
qualifiers are read: the empty one, and well-formed segments with or without their final dot.

`Namespace.qualify_coherent` collects what follows for qualification. It changes nothing when it is
done again, and a namespace that is not empty keeps every name without dots: the identifier gives it
back as the local name, behind the segments of the namespace, and is well formed exactly when the
name is a segment.
-/

set_option autoImplicit false
set_option relaxedAutoImplicit false

namespace Ontology

/-! ### Segments -/

/-- Whether a text is a single segment: a letter that letters, digits, underscores and hyphens
follow. -/
def IsSegment : List Char → Bool
  | [] => false
  | c :: rest => c.isAlpha && rest.all IsSegmentChar

section Segments

variable {first rest name : List Char}

/-- A dot ends a segment and asks for another one. -/
theorem segments_append_dot (first rest : List Char) :
    OpensSegment (first ++ '.' :: rest) = (OpensSegment first && OpensSegment rest) ∧
      ContinuesSegment (first ++ '.' :: rest) = (ContinuesSegment first && OpensSegment rest) := by
  induction first with
  | nil => exact ⟨rfl, rfl⟩
  | cons c first ih =>
    obtain ⟨hopens, hcontinues⟩ := ih
    rw [List.cons_append, OpensSegment, OpensSegment, ContinuesSegment, ContinuesSegment,
      hcontinues, hopens, Bool.and_assoc]
    refine ⟨rfl, ?_⟩
    split_ifs with hdot
    · rfl
    · rw [Bool.and_assoc]

theorem opensSegment_append_dot_iff :
    OpensSegment (first ++ '.' :: rest) ↔ OpensSegment first ∧ OpensSegment rest := by
  rw [(segments_append_dot first rest).1, Bool.and_eq_true]

/-- A text of well-formed segments does not end in a dot. -/
theorem getLast?_ne_dot (h : OpensSegment first) : first.getLast? ≠ some '.' := by
  intro hlast
  obtain ⟨before, rfl⟩ := List.getLast?_eq_some_iff.mp hlast
  exact absurd (opensSegment_append_dot_iff.mp h).2 (by simp [OpensSegment])

theorem continuesSegment_eq_all (h : '.' ∉ name) :
    ContinuesSegment name = name.all IsSegmentChar := by
  induction name with
  | nil => rfl
  | cons c rest ih =>
    obtain ⟨hc, hrest⟩ := not_or.mp (List.mem_cons.not.mp h)
    rw [ContinuesSegment, if_neg (Ne.symm hc), ih hrest, List.all_cons]

/-- Without a dot there is one segment. -/
theorem opensSegment_eq_isSegment (h : '.' ∉ name) : OpensSegment name = IsSegment name := by
  cases name with
  | nil => rfl
  | cons c rest =>
    have hrest : '.' ∉ rest := fun hmem ↦ h (List.mem_cons_of_mem c hmem)
    rw [OpensSegment, IsSegment, continuesSegment_eq_all hrest]

end Segments

/-! ### The parts of an identifier -/

namespace Identifier

variable {before name : String}

theorem check_eq_ok_iff {id : Identifier} : id.check = .ok () ↔ id.WellFormed := by
  unfold check
  split_ifs with h <;> simp [h]

theorem not_dot_localName (id : Identifier) : '.' ∉ id.localName.toList := by
  rw [localName, String.toList_ofList, List.mem_reverse]
  intro hdot
  simpa using List.mem_takeWhile_imp hdot

theorem toList_dotted (before name : String) :
    (before ++ "." ++ name).toList = before.toList ++ '.' :: name.toList := by
  simp

/-- Both parts of an identifier are read from its end, up to the last dot. -/
theorem forall_reverse_ne_dot (hname : '.' ∉ name.toList) :
    ∀ c ∈ name.toList.reverse, decide (c ≠ '.') = true := by
  intro c hc
  simpa using fun hdot : c = '.' ↦ hname (hdot ▸ List.mem_reverse.mp hc)

theorem localName_dotted (hname : '.' ∉ name.toList) :
    (⟨before ++ "." ++ name⟩ : Identifier).localName = name := by
  rw [localName, toList_dotted, List.reverse_append, List.reverse_cons, List.append_assoc,
    List.takeWhile_append_of_pos (forall_reverse_ne_dot hname)]
  simp

theorem qualifier?_dotted (hname : '.' ∉ name.toList) :
    (⟨before ++ "." ++ name⟩ : Identifier).qualifier? = some before := by
  rw [qualifier?, toList_dotted, List.reverse_append, List.reverse_cons, List.append_assoc,
    List.dropWhile_append_of_pos (forall_reverse_ne_dot hname)]
  simp

theorem wellFormed_dotted_iff :
    (⟨before ++ "." ++ name⟩ : Identifier).WellFormed ↔
      IsQualifiedName before ∧ IsQualifiedName name := by
  rw [WellFormed, IsQualifiedName, toList_dotted, opensSegment_append_dot_iff]
  rfl

end Identifier

/-! ### Namespaces -/

namespace Namespace

variable {space : Namespace} {text name other : String}

/-- Whether or not a qualifier comes with its final dot, it has one in the end. -/
theorem withFinalDot_of_opensSegment {chars : List Char} (h : OpensSegment chars) :
    withFinalDot chars = chars ++ ['.'] ∧ withFinalDot (chars ++ ['.']) = chars ++ ['.'] := by
  unfold withFinalDot
  rw [if_neg (getLast?_ne_dot h), List.getLast?_concat, if_pos rfl]
  exact ⟨rfl, rfl⟩

/-- The qualifier that is read ends in a dot, and what stands before it has been given. -/
theorem withFinalDot_eq (chars : List Char) :
    withFinalDot chars = (withFinalDot chars).dropLast ++ ['.'] ∧
      (chars = (withFinalDot chars).dropLast ∨ chars = (withFinalDot chars).dropLast ++ ['.']) := by
  unfold withFinalDot
  split_ifs with hlast
  · obtain ⟨before, rfl⟩ := List.getLast?_eq_some_iff.mp hlast
    simp
  · simp

theorem ofText_of_ne (h : text ≠ "") :
    ofText text =
      if OpensSegment (withFinalDot text.toList).dropLast then
        .ok ⟨String.ofList (withFinalDot text.toList)⟩
      else .error (.invalidNamespace (String.ofList (withFinalDot text.toList))) := by
  unfold ofText
  split
  · next hnil => exact absurd (String.toList_eq_nil_iff.mp hnil) h
  · next hcons => rw [hcons]

/-- A qualifier is read when it is empty, or when it consists of well-formed segments, with or
without a final dot. -/
theorem ofText_eq_ok_iff :
    ofText text = .ok space ↔ text = "" ∧ space = empty ∨
      ∃ name, IsQualifiedName name ∧ (text = name ∨ text = name ++ ".") ∧
        space = ⟨name ++ "."⟩ := by
  constructor
  · intro h
    by_cases htext : text = ""
    · subst htext
      cases h
      exact .inl ⟨rfl, rfl⟩
    · rw [ofText_of_ne htext] at h
      split_ifs at h with hopens
      cases h
      obtain ⟨hdot, hgiven⟩ := withFinalDot_eq text.toList
      refine .inr ⟨String.ofList (withFinalDot text.toList).dropLast, ?_, ?_, ?_⟩
      · rwa [IsQualifiedName, String.toList_ofList]
      · simpa [← String.toList_inj] using hgiven
      · rw [Namespace.mk.injEq, ← String.toList_inj]
        simpa using hdot
  · rintro (⟨rfl, rfl⟩ | ⟨name, hname, htext, rfl⟩)
    · rfl
    · have hcompleted : withFinalDot text.toList = name.toList ++ ['.'] := by
        obtain ⟨hbare, hdotted⟩ := withFinalDot_of_opensSegment hname
        rcases htext with rfl | rfl
        · exact hbare
        · rw [String.toList_append]
          exact hdotted
      have hne : text ≠ "" := by
        rintro rfl
        have hnil : name = "" := by
          rcases htext with htext | htext
          · exact htext.symm
          · simp at htext
        simp [hnil, IsQualifiedName, OpensSegment] at hname
      rw [IsQualifiedName] at hname
      rw [ofText_of_ne hne, hcompleted, List.dropLast_concat, if_pos hname, String.ofList_append,
        String.ofList_toList]

/-- Reading the qualifier of a namespace gives the namespace. -/
theorem ofText_qualifier (h : ofText text = .ok space) : ofText space.qualifier = .ok space := by
  rcases ofText_eq_ok_iff.mp h with ⟨-, rfl⟩ | ⟨name, hname, -, rfl⟩
  · rfl
  · exact ofText_eq_ok_iff.mpr (.inr ⟨name, hname, .inr rfl, rfl⟩)

/-! ### Qualified names -/

theorem qualify_auto_of_dot (h : '.' ∈ name.toList) : space.qualify (.auto name) = ⟨name⟩ := by
  rw [qualify, if_pos h]

theorem qualify_auto_of_not_dot (h : '.' ∉ name.toList) :
    space.qualify (.auto name) = ⟨space.qualifier ++ name⟩ := by
  rw [qualify, if_neg h]

/-- In one namespace different names without dots make different identifiers. -/
theorem qualify_auto_eq_iff (hname : '.' ∉ name.toList) (hother : '.' ∉ other.toList) :
    space.qualify (.auto name) = space.qualify (.auto other) ↔ name = other := by
  rw [qualify_auto_of_not_dot hname, qualify_auto_of_not_dot hother, Identifier.mk.injEq,
    String.append_right_inj]

/-- What has been qualified stays as it is. -/
theorem qualify_qualify (h : ofText text = .ok space) (name : String) :
    space.qualify (.auto (space.qualify (.auto name)).text) = space.qualify (.auto name) := by
  by_cases hname : '.' ∈ name.toList
  · rw [qualify_auto_of_dot hname, qualify_auto_of_dot hname]
  · rw [qualify_auto_of_not_dot hname]
    rcases ofText_eq_ok_iff.mp h with ⟨-, rfl⟩ | ⟨qualifier, -, -, rfl⟩
    · -- The empty namespace leaves the name without a dot, and adds nothing once more.
      rw [empty, String.empty_append, qualify_auto_of_not_dot hname, String.empty_append]
    · rw [qualify_auto_of_dot (by simp)]

/-- A namespace that is read from a text adds nothing, or ends in one dot behind well-formed
segments; reading it again gives the same, and so does qualifying again what has been qualified. One
that adds something makes an identifier of a name without dots that has the name as its local name
and the segments of the namespace in front of it, and keeps the naming rule exactly when the name is
a segment. Different names of this kind make different identifiers. -/
theorem qualify_coherent (h : ofText text = .ok space) :
    ofText space.qualifier = .ok space ∧
    (space.qualifier = "" ∨ ∃ id : Identifier, id.WellFormed ∧ id.text.toList.getLast? ≠ some '.' ∧
      space.qualifier = id.text ++ ".") ∧
    (∀ name, space.qualify (.auto (space.qualify (.auto name)).text) =
      space.qualify (.auto name)) ∧
    (space ≠ empty → ∀ name : String, '.' ∉ name.toList →
      (space.qualify (.auto name)).localName = name ∧
      (∃ before, (space.qualify (.auto name)).qualifier? = some before ∧
        before ++ "." = space.qualifier) ∧
      ((space.qualify (.auto name)).check = .ok () ↔ IsSegment name.toList) ∧
      ∀ other : String, '.' ∉ other.toList →
        space.qualify (.auto name) = space.qualify (.auto other) → name = other) := by
  refine ⟨ofText_qualifier h, ?_, qualify_qualify h, fun hne name hname ↦ ?_⟩
  · rcases ofText_eq_ok_iff.mp h with ⟨-, rfl⟩ | ⟨name, hname, -, rfl⟩
    · exact .inl rfl
    · exact .inr ⟨⟨name⟩, hname, getLast?_ne_dot hname, rfl⟩
  · obtain ⟨before, hbefore, -, rfl⟩ := (ofText_eq_ok_iff.mp h).resolve_left fun h ↦ hne h.2
    have hqualified : qualify ⟨before ++ "."⟩ (.auto name) = ⟨before ++ "." ++ name⟩ :=
      qualify_auto_of_not_dot hname
    refine ⟨?_, ⟨before, ?_, rfl⟩, ?_, fun other hother ↦ (qualify_auto_eq_iff hname hother).mp⟩
    · rw [hqualified, Identifier.localName_dotted hname]
    · rw [hqualified, Identifier.qualifier?_dotted hname]
    · rw [hqualified, Identifier.check_eq_ok_iff, Identifier.wellFormed_dotted_iff,
        and_iff_right hbefore, IsQualifiedName, opensSegment_eq_isSegment hname]

/-- A name with a blank in it is kept as well, but it is no segment. -/
theorem qualify_coherent_comExample :
    ofText "com.example" = .ok ⟨"com.example."⟩ ∧ (⟨"com.example."⟩ : Namespace) ≠ empty ∧
      '.' ∉ "my ticket".toList ∧
      (qualify ⟨"com.example."⟩ (.auto "my ticket")).localName = "my ticket" ∧
      (qualify ⟨"com.example."⟩ (.auto "my ticket")).check ≠ .ok () := by
  have hread : ofText "com.example" = .ok ⟨"com.example."⟩ := by decide +kernel
  have hne : (⟨"com.example."⟩ : Namespace) ≠ empty := by decide
  have hname : '.' ∉ "my ticket".toList := by decide
  obtain ⟨-, -, -, hkept⟩ := qualify_coherent hread
  obtain ⟨hlocal, -, hcheck, -⟩ := hkept hne "my ticket" hname
  have hsegment : ¬ IsSegment "my ticket".toList := by decide
  exact ⟨hread, hne, hname, hlocal, hsegment ∘ hcheck.mp⟩

end Namespace

end Ontology
