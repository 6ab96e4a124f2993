import Ontology.Proofs.Emission.Values

/-!
The JSON form of action types and their parts determines them (`ActionType.determines_toJson`), as
long as their double literals are finite. The literals of each part are listed beside it, up to
`ActionType.literals`; parts that hold none are determined without any condition.
-/

set_option autoImplicit false
set_option relaxedAutoImplicit false

namespace Ontology

open Json

/-! ### Conditions -/

@[simp] theorem Operator.name_inj {first second : Operator} :
    first.name = second.name ↔ first = second := by
  cases first <;> cases second <;> simp [name]

@[simp] theorem UserReference.same_toJson_iff {first second : UserReference} :
    first.toJson.Same second.toJson ↔ first = second := by
  cases first <;> cases second <;> simp [toJson]

@[simp] theorem UserProperty.same_toJson_iff {first second : UserProperty} :
    first.toJson.Same second.toJson ↔ first = second := by
  cases first <;> cases second <;> simp [toJson]

namespace Operand

/-- The literals of a side of a comparison. -/
def literals : Operand → List Literal
  | .literal value => [value]
  | .parameter _ | .userProperty _ _ => []

theorem determines_toJson {operand : Operand} (h : ∀ value ∈ operand.literals, value.IsFinite) :
    Determines toJson operand := by
  intro other
  cases operand with
  | literal value =>
    have hvalue := Literal.determines_toJson value (h value List.mem_cons_self)
    cases other <;> simp [toJson, hvalue.same_iff]
  | parameter | userProperty => cases other <;> simp [toJson]

end Operand

namespace Condition

mutual

/-- The literals of a condition. -/
def literals : Condition → List Literal
  | .always => []
  | .comparison _ left right => left.literals ++ right.literals
  | .all conditions | .any conditions => literalsOfAll conditions

/-- The literals of several conditions. -/
def literalsOfAll : List Condition → List Literal
  | [] => []
  | condition :: rest => literals condition ++ literalsOfAll rest

end

mutual

theorem determines_toJson : ∀ condition : Condition,
    (∀ value ∈ condition.literals, value.IsFinite) → Determines toJson condition
  | .always, _ => by
    intro other
    cases other <;> simp [toJson]
  | .comparison operator left right, h => by
    obtain ⟨hleft, hright⟩ := List.forall_mem_append.mp h
    intro other
    cases other <;> simp [toJson, (Operand.determines_toJson hleft).same_iff,
      (Operand.determines_toJson hright).same_iff]
  | .all conditions, h | .any conditions, h => by
    intro other
    cases other <;> simp [toJson, same_listToJson_iff conditions h]

theorem same_listToJson_iff : ∀ conditions : List Condition,
    (∀ value ∈ literalsOfAll conditions, value.IsFinite) → ∀ others,
      List.Forall₂ Same (listToJson conditions) (listToJson others) ↔ conditions = others
  | [], _, [] | [], _, _ :: _ | _ :: _, _, [] => by simp [listToJson]
  | condition :: rest, h, other :: others => by
    obtain ⟨hcondition, hrest⟩ := List.forall_mem_append.mp h
    have hsame := determines_toJson condition hcondition other
    simp [listToJson, hsame, same_listToJson_iff rest hrest others]

end

end Condition

/-! ### Parameters -/

@[simp] theorem RenderHint.name_inj {first second : RenderHint} :
    first.name = second.name ↔ first = second := by
  cases first <;> cases second <;> simp [name]

@[simp] theorem Visibility.name_inj {first second : Visibility} :
    first.name = second.name ↔ first = second := by
  cases first <;> cases second <;> simp [name]

@[simp] theorem same_lengthToJson_iff {first second : Option Nat} :
    (lengthToJson first).Same (lengthToJson second) ↔ first = second := by
  cases first <;> cases second
  · exact iff_of_true .null rfl
  · exact iff_of_false nofun nofun
  · exact iff_of_false nofun nofun
  · exact same_integer_iff.trans (Int.ofNat_inj.trans Option.some_inj.symm)

theorem same_boundToJson_iff {first second : Option Literal}
    (h : ∀ value ∈ first, value.IsFinite) :
    (boundToJson first).Same (boundToJson second) ↔ first = second :=
  same_ofOption_iff Literal.toJson_ne_null fun value hvalue ↦
    value.determines_toJson (h value hvalue)

namespace AllowedValues

/-- The literals among allowed values: bounds, and the values of a choice. -/
def literals : AllowedValues → List Literal
  | .range min max | .datetime min max => min.toList ++ max.toList
  | .oneOf values => values
  | _ => []

theorem determines_toJson {allowed : AllowedValues}
    (h : ∀ value ∈ allowed.literals, value.IsFinite) : Determines toJson allowed := by
  intro other
  cases allowed with
  | range min max | datetime min max =>
    obtain ⟨hmin, hmax⟩ := List.forall_mem_append.mp h
    simp only [Option.mem_toList] at hmin hmax
    cases other <;> simp [toJson, same_boundToJson_iff hmin, same_boundToJson_iff hmax]
  | oneOf values => cases other <;> simp [toJson, Literal.same_listToJson_iff values h]
  | _ => cases other <;> simp [toJson]

end AllowedValues

@[simp] theorem Requirement.same_toJson_iff {first second : Requirement} :
    first.toJson.Same second.toJson ↔ first = second := by
  cases first <;> cases second <;> simp [toJson]

namespace Prefill

/-- The literals of a prefill. -/
def literals : Prefill → List Literal
  | .literal value => [value]
  | .objectProperty _ _ | .currentUser | .currentTime => []

theorem determines_toJson {prefilled : Prefill}
    (h : ∀ value ∈ prefilled.literals, value.IsFinite) : Determines toJson prefilled := by
  intro other
  cases prefilled with
  | literal value =>
    have hvalue := Literal.determines_toJson value (h value List.mem_cons_self)
    cases other <;> simp [toJson, hvalue.same_iff]
  | objectProperty | currentUser | currentTime => cases other <;> simp [toJson]

end Prefill

namespace ValidationBlock

/-- The literals in the settings of a parameter. -/
def literals (block : ValidationBlock) : List Literal :=
  block.allowedValues.literals ++ block.prefilled.toList.flatMap (·.literals)

theorem determines_toJson {block : ValidationBlock}
    (h : ∀ value ∈ block.literals, value.IsFinite) : Determines toJson block := by
  obtain ⟨hallowed, hprefilled⟩ := List.forall_mem_append.mp h
  have hprefilled : ∀ prefilled ∈ block.prefilled, Determines Prefill.toJson prefilled := by
    intro prefilled hmem
    exact Prefill.determines_toJson
      (List.forall_mem_flatMap.mp hprefilled prefilled (Option.mem_toList.mpr hmem))
  intro other
  cases block
  cases other
  simp [toJson, (AllowedValues.determines_toJson hallowed).same_iff, same_option_iff hprefilled]

end ValidationBlock

namespace Effect

/-- The literals of an effect. -/
def literals : Effect → List Literal
  | .prefilled value => value.literals
  | .allowedValues allowed => allowed.literals
  | .visibility _ | .requirement _ => []

theorem determines_toJson {effect : Effect} (h : ∀ value ∈ effect.literals, value.IsFinite) :
    Determines toJson effect := by
  intro other
  cases effect with
  | prefilled => cases other <;> simp [toJson, (Prefill.determines_toJson h).same_iff]
  | allowedValues => cases other <;> simp [toJson, (AllowedValues.determines_toJson h).same_iff]
  | visibility | requirement => cases other <;> simp [toJson]

end Effect

namespace ConditionalEffects

/-- The literals of conditional effects. -/
def literals (change : ConditionalEffects) : List Literal :=
  change.condition.literals ++ change.effects.flatMap (·.literals)

theorem determines_toJson {change : ConditionalEffects}
    (h : ∀ value ∈ change.literals, value.IsFinite) : Determines toJson change := by
  obtain ⟨hcondition, heffects⟩ := List.forall_mem_append.mp h
  have heffects : ∀ effect ∈ change.effects, Determines Effect.toJson effect :=
    determines_of_flatMap (fun _ ↦ Effect.determines_toJson) heffects
  intro other
  cases change
  cases other
  simp [toJson, (Condition.determines_toJson _ hcondition).same_iff, same_items_iff heffects]

end ConditionalEffects

namespace ParameterValidation

/-- The literals in all settings of a parameter. -/
def literals (validation : ParameterValidation) : List Literal :=
  validation.default.literals ++ validation.overrides.flatMap (·.literals)

theorem determines_toJson {validation : ParameterValidation}
    (h : ∀ value ∈ validation.literals, value.IsFinite) : Determines toJson validation := by
  obtain ⟨hdefault, hoverrides⟩ := List.forall_mem_append.mp h
  have hoverrides : ∀ change ∈ validation.overrides, Determines ConditionalEffects.toJson change :=
    determines_of_flatMap (fun _ ↦ ConditionalEffects.determines_toJson) hoverrides
  intro other
  cases validation
  cases other
  simp [toJson, (ValidationBlock.determines_toJson hdefault).same_iff, same_items_iff hoverrides]

end ParameterValidation

theorem Parameter.determines_toJson {parameter : Parameter}
    (h : ∀ value ∈ parameter.validation.literals, value.IsFinite) :
    Determines toJson parameter := by
  intro other
  cases parameter
  cases other
  simp [toJson, (ParameterValidation.determines_toJson h).same_iff]

/-! ### Rules -/

namespace ValueSource

/-- The literals of a value source. -/
def literals : ValueSource → List Literal
  | .literal value => [value]
  | .parameter _ | .currentUser | .currentTime | .objectProperty _ _ => []

theorem determines_toJson {source : ValueSource} (h : ∀ value ∈ source.literals, value.IsFinite) :
    Determines toJson source := by
  intro other
  cases source with
  | literal value =>
    have hvalue := Literal.determines_toJson value (h value List.mem_cons_self)
    cases other <;> simp [toJson, hvalue.same_iff]
  | parameter | currentUser | currentTime | objectProperty => cases other <;> simp [toJson]

end ValueSource

theorem ObjectBinding.determines_toJson {binding : ObjectBinding}
    (h : ∀ value ∈ binding.value.literals, value.IsFinite) : Determines toJson binding := by
  intro other
  cases binding
  cases other
  simp [toJson, (ValueSource.determines_toJson h).same_iff]

theorem InterfaceBinding.determines_toJson {binding : InterfaceBinding}
    (h : ∀ value ∈ binding.value.literals, value.IsFinite) : Determines toJson binding := by
  intro other
  cases binding
  cases other
  simp [toJson, (ValueSource.determines_toJson h).same_iff]

namespace Rule

/-- The literals of a rule. -/
def literals : Rule → List Literal
  | .addObject _ values | .modifyObject _ values | .addOrModifyObject _ values =>
    values.flatMap (·.value.literals)
  | .addInterface _ _ values | .modifyInterface _ _ _ values => values.flatMap (·.value.literals)
  | .deleteObject _ => []

theorem determines_toJson {rule : Rule} (h : ∀ value ∈ rule.literals, value.IsFinite) :
    Determines toJson rule := by
  intro other
  cases rule with
  | addObject _ values | modifyObject _ values | addOrModifyObject _ values =>
    have hvalues : ∀ binding ∈ values, Determines ObjectBinding.toJson binding :=
      determines_of_flatMap (fun _ ↦ ObjectBinding.determines_toJson) h
    cases other <;> simp [toJson, same_items_iff hvalues]
  | addInterface _ _ values | modifyInterface _ _ _ values =>
    have hvalues : ∀ binding ∈ values, Determines InterfaceBinding.toJson binding :=
      determines_of_flatMap (fun _ ↦ InterfaceBinding.determines_toJson) h
    cases other <;> simp [toJson, same_items_iff hvalues]
  | deleteObject => cases other <;> simp [toJson]

end Rule

/-! ### The form -/

@[simp] theorem SectionVisibility.name_inj {first second : SectionVisibility} :
    first.name = second.name ↔ first = second := by
  cases first <;> cases second <;> simp [name]

@[simp] theorem FormSection.same_toJson_iff {first second : FormSection} :
    first.toJson.Same second.toJson ↔ first = second := by
  cases first
  cases second
  simp [toJson]

@[simp] theorem FormItem.same_toJson_iff {first second : FormItem} :
    first.toJson.Same second.toJson ↔ first = second := by
  cases first <;> cases second <;> simp [toJson]

theorem SectionOverride.determines_toJson {change : SectionOverride}
    (h : ∀ value ∈ change.condition.literals, value.IsFinite) : Determines toJson change := by
  intro other
  cases change
  cases other
  simp [toJson, (Condition.determines_toJson _ h).same_iff]

namespace SectionValidation

/-- The literals in the conditions under which a section shows. -/
def literals (validation : SectionValidation) : List Literal :=
  validation.overrides.flatMap (·.condition.literals)

theorem determines_toJson {validation : SectionValidation}
    (h : ∀ value ∈ validation.literals, value.IsFinite) : Determines toJson validation := by
  have hoverrides : ∀ change ∈ validation.overrides, Determines SectionOverride.toJson change :=
    determines_of_flatMap (fun _ ↦ SectionOverride.determines_toJson) h
  intro other
  cases validation
  cases other
  simp [toJson, same_items_iff hoverrides]

end SectionValidation

/-! ### Action types -/

theorem SubmissionRule.determines_toJson {rule : SubmissionRule}
    (h : ∀ value ∈ rule.condition.literals, value.IsFinite) : Determines toJson rule := by
  intro other
  cases rule
  cases other
  simp [toJson, (Condition.determines_toJson _ h).same_iff]

namespace ActionValidation

/-- The literals in the conditions of an action. -/
def literals (validation : ActionValidation) : List Literal :=
  validation.actionLevel.flatMap (·.condition.literals) ++
    validation.sections.flatMap (·.literals)

theorem determines_toJson {validation : ActionValidation}
    (h : ∀ value ∈ validation.literals, value.IsFinite) : Determines toJson validation := by
  obtain ⟨hrules, hsections⟩ := List.forall_mem_append.mp h
  have hrules : ∀ rule ∈ validation.actionLevel, Determines SubmissionRule.toJson rule :=
    determines_of_flatMap (fun _ ↦ SubmissionRule.determines_toJson) hrules
  have hsections : ∀ shown ∈ validation.sections, Determines SectionValidation.toJson shown :=
    determines_of_flatMap (fun _ ↦ SectionValidation.determines_toJson) hsections
  intro other
  cases validation
  cases other
  simp [toJson, same_items_iff hrules, same_items_iff hsections]

end ActionValidation

@[simp] theorem ActionStatus.name_inj {first second : ActionStatus} :
    first.name = second.name ↔ first = second := by
  cases first <;> cases second <;> simp [name]

@[simp] theorem FormFormat.name_inj {first second : FormFormat} :
    first.name = second.name ↔ first = second := by
  cases first <;> cases second <;> simp [name]

@[simp] theorem Icon.same_toJson_iff {first second : Icon} :
    first.toJson.Same second.toJson ↔ first = second := by
  cases first
  cases second
  simp [toJson]

@[simp] theorem ActionDisplay.same_toJson_iff {first second : ActionDisplay} :
    first.toJson.Same second.toJson ↔ first = second := by
  cases first
  cases second
  simp [toJson]

@[simp] theorem Submission.same_toJson_iff {first second : Submission} :
    first.toJson.Same second.toJson ↔ first = second := by
  cases first
  cases second
  simp [toJson]

namespace ActionType

/-- The literals of an action: in the values that its rules write, in the settings of its
parameters, and in the conditions on its submission and its sections. -/
def literals (action : ActionType) : List Literal :=
  action.logic.flatMap (·.literals) ++ action.parameters.flatMap (·.validation.literals) ++
    action.validation.literals

/-- An action type with finite doubles is determined by its JSON form. -/
theorem determines_toJson {action : ActionType} (h : ∀ value ∈ action.literals, value.IsFinite) :
    Determines toJson action := by
  obtain ⟨h, hvalidation⟩ := List.forall_mem_append.mp h
  obtain ⟨hlogic, hparameters⟩ := List.forall_mem_append.mp h
  have hlogic : ∀ rule ∈ action.logic, Determines Rule.toJson rule :=
    determines_of_flatMap (fun _ ↦ Rule.determines_toJson) hlogic
  have hparameters : ∀ parameter ∈ action.parameters, Determines Parameter.toJson parameter :=
    determines_of_flatMap (fun _ ↦ Parameter.determines_toJson) hparameters
  intro other
  cases action
  cases other
  simp [toJson, (ActionValidation.determines_toJson hvalidation).same_iff, same_items_iff hlogic,
    same_items_iff hparameters]

end ActionType

end Ontology
