import Ontology.Proofs.Emission.Same

/-!
The JSON form of names, types and literals determines them (`PropertyType.same_toJson_iff`,
`ParameterType.same_toJson_iff`, `Literal.determines_toJson`). Doubles are the one exception. Those
that are not finite are all null in JSON, so a literal is determined if its doubles are finite,
whatever the doubles of the other literal are.
-/

set_option autoImplicit false
set_option relaxedAutoImplicit false

namespace Ontology

open Json

/-! ### Names -/

@[simp] theorem Json.same_strings_iff {first second : List String} :
    (strings first).Same (strings second) ↔ first = second := by
  rw [strings, strings, same_array_iff]
  exact same_items_iff fun _ _ _ ↦ same_string_iff

namespace Identifier

@[simp] theorem same_toJson_iff {first second : Identifier} :
    first.toJson.Same second.toJson ↔ first = second := by
  rw [toJson, toJson, same_string_iff]
  exact ⟨congrArg Identifier.mk, congrArg Identifier.text⟩

@[simp] theorem same_listToJson_iff {first second : List Identifier} :
    (listToJson first).Same (listToJson second) ↔ first = second := by
  rw [listToJson, listToJson, same_array_iff]
  exact same_items_iff fun _ _ _ ↦ same_toJson_iff

end Identifier

/-! ### Types -/

namespace ScalarType

@[simp] theorem name_inj {first second : ScalarType} :
    first.name = second.name ↔ first = second := by
  cases first <;> cases second <;> simp [name]

/-- A scalar type has no name that the types with parts have. -/
theorem name_ne (type : ScalarType) : type.name ≠ "struct" ∧ type.name ≠ "array" := by
  cases type <;> simp [name]

end ScalarType

namespace PropertyType

mutual

@[simp] theorem same_toJson_iff : ∀ first second : PropertyType,
    (toJson first).Same (toJson second) ↔ first = second
  | .scalar first, .scalar second => by simp [toJson]
  | .struct first, .struct second => by simp [toJson, same_fieldsToJson_iff first second]
  | .array first, .array second => by simp [toJson, same_toJson_iff first second]
  | .scalar type, .struct _ | .scalar type, .array _ => by simp [toJson, type.name_ne]
  | .struct _, .scalar type | .array _, .scalar type => by
    simp [toJson, type.name_ne.1.symm, type.name_ne.2.symm]
  | .struct _, .array _ | .array _, .struct _ => by simp [toJson]

@[simp] theorem same_fieldsToJson_iff : ∀ first second : List (String × PropertyType),
    List.Forall₂ Same (fieldsToJson first) (fieldsToJson second) ↔ first = second
  | [], [] => by simp [fieldsToJson]
  | (_, type) :: first, (_, other) :: second => by
    simp [fieldsToJson, same_toJson_iff type other, same_fieldsToJson_iff first second]
  | [], _ :: _ | _ :: _, [] => by simp [fieldsToJson]

end

end PropertyType

@[simp] theorem ParameterType.same_toJson_iff {first second : ParameterType} :
    first.toJson.Same second.toJson ↔ first = second := by
  induction first generalizing second with
  | list item ih => cases second <;> simp [toJson, typeName, ih]
  | _ => cases second <;> simp [toJson, typeName]

/-! ### Literals -/

/-- A finite double is determined among all doubles, since the others are null. -/
theorem same_doubleToJson_iff {first second : Float} (h : first.isFinite) :
    (doubleToJson first).Same (doubleToJson second) ↔ first = second := by
  rw [doubleToJson, if_pos h, doubleToJson]
  split_ifs with hsecond
  · exact same_number_iff
  · exact iff_of_false nofun fun heq ↦ hsecond (heq ▸ h)

namespace Literal

mutual

/-- The doubles in a literal. -/
def doubles : Literal → List Float
  | .double value => [value]
  | .list items => doublesOfAll items
  | _ => []

/-- The doubles in several literals. -/
def doublesOfAll : List Literal → List Float
  | [] => []
  | item :: rest => doubles item ++ doublesOfAll rest

end

/-- All doubles in a literal are finite. -/
def IsFinite (literal : Literal) : Prop := ∀ value ∈ literal.doubles, value.isFinite

instance (literal : Literal) : Decidable literal.IsFinite :=
  inferInstanceAs (Decidable (∀ value ∈ literal.doubles, value.isFinite = true))

theorem isFinite_list_iff {items : List Literal} :
    (list items).IsFinite ↔ ∀ item ∈ items, item.IsFinite := by
  have hdoubles : doublesOfAll items = items.flatMap doubles := by
    induction items with
    | nil => rfl
    | cons item rest ih => rw [doublesOfAll, ih, List.flatMap_cons]
  rw [IsFinite, doubles, hdoubles, List.forall_mem_flatMap]
  rfl

mutual

theorem determines_toJson : ∀ literal : Literal, literal.IsFinite → Determines toJson literal
  | .null, _ | .boolean _, _ | .integer _, _ | .string _, _ | .date _, _ | .timestamp _, _ => by
    intro other
    cases other <;> simp [toJson, Int64.toInt_inj]
  | .double value, h => by
    have hfinite : value.isFinite := h value List.mem_cons_self
    intro other
    cases other <;> simp [toJson, same_doubleToJson_iff hfinite]
  | .list items, h => by
    have hitems : ∀ item ∈ items, item.IsFinite := isFinite_list_iff.mp h
    intro other
    cases other with
    | list others => simp [toJson, same_listToJson_iff items hitems others]
    | _ => simp [toJson]

theorem same_listToJson_iff : ∀ items : List Literal, (∀ item ∈ items, item.IsFinite) →
    ∀ others, List.Forall₂ Same (listToJson items) (listToJson others) ↔ items = others
  | [], _, [] | [], _, _ :: _ | _ :: _, _, [] => by simp [listToJson]
  | item :: rest, h, other :: others => by
    obtain ⟨hitem, hrest⟩ := List.forall_mem_cons.mp h
    have hsame := determines_toJson item hitem other
    simp [listToJson, hsame, same_listToJson_iff rest hrest others]

end

/-- No literal is emitted as null, so null may stand for one that is missing. -/
theorem toJson_ne_null (literal : Literal) : literal.toJson ≠ .null := by
  cases literal <;> simp [toJson, tagged]

end Literal

end Ontology
