import Ontology.Proofs.Action.Drafts
import Ontology.Proofs.Action.References

/-!
The parts that parameters play in rules. A rule names parameters as its targets, each in a role, and
`TargetRole.admits` says which types of parameter can play it. The check of rules that are written
by hand asks for these types where an object is created, modified or deleted, but asks of the
parameters of rules on interfaces only that they be declared (`Rule.Fits.exists_type`). So the
targets of an action that is spelled out have the types of their roles but for the ones of its rules
on interfaces (`compile_roles`), and these may have any type (`not_forall_rolesTyped`).
-/

set_option autoImplicit false
set_option relaxedAutoImplicit false

namespace Ontology

open Outcome

/-! ### Roles and their types -/

namespace TargetRole

/-- Whether a parameter of a type can play a role. An object to delete may be chosen through an
interface as well. -/
def admits : TargetRole → ParameterType → Bool
  | .objectToModify, .objectReference _ => true
  | .objectToCreateOrModify, .objectReference _ => true
  | .objectToDelete, .objectReference _ => true
  | .objectToDelete, .interfaceReference _ => true
  | .interfaceObjectToModify, .interfaceReference _ => true
  | .objectType, .objectTypeReference _ => true
  | _, _ => false

/-- Whether the check of rules looks at the type of the parameter in a role. In the roles of rules
on interfaces it does not. -/
def isChecked : TargetRole → Bool
  | .objectToModify | .objectToDelete | .objectToCreateOrModify => true
  | .interfaceObjectToModify | .objectType => false

end TargetRole

namespace Rule

variable {registry : Registry} {scope : Scope} {rule : Rule}

/-- The parameters that say what a rule works on, with their roles. -/
def roles : Rule → List (TargetRole × String)
  | .addObject _ _ => []
  | .modifyObject target _ => [(.objectToModify, target)]
  | .addOrModifyObject target _ => [(.objectToCreateOrModify, target)]
  | .deleteObject target => [(.objectToDelete, target)]
  | .addInterface _ objectType _ => [(.objectType, objectType)]
  | .modifyInterface _ target objectType _ =>
    (.interfaceObjectToModify, target) :: objectType.toList.map fun id ↦ (.objectType, id)

/-- Every target of a rule has a role. -/
theorem map_snd_roles (rule : Rule) : rule.roles.map (·.2) = rule.targets := by
  cases rule with
  | modifyInterface _ _ objectType _ => cases objectType <;> rfl
  | _ => rfl

/-- In the roles on objects, the targets of a rule that fits have types that the roles admit. -/
theorem Fits.exists_admitted (h : rule.Fits registry scope) {role : TargetRole} {id : String}
    (hrole : (role, id) ∈ rule.roles) (hchecked : role.isChecked) :
    ∃ type, scope.type? id = some type ∧ role.admits type := by
  cases h with
  | addObject => cases hrole
  | modifyObject htarget | addOrModifyObject htarget =>
    cases List.mem_singleton.mp hrole
    exact ⟨_, htarget, rfl⟩
  | deleteObject htarget =>
    cases List.mem_singleton.mp hrole
    rcases htarget with hobject | hinterface
    · exact ⟨_, hobject, rfl⟩
    · exact ⟨_, hinterface, rfl⟩
  | addInterface =>
    cases List.mem_singleton.mp hrole
    cases hchecked
  | @modifyInterface _ _ objectType =>
    rcases List.mem_cons.mp hrole with hsame | hrest
    · cases hsame
      cases hchecked
    · obtain ⟨other, -, hsame⟩ := List.mem_map.mp hrest
      cases hsame
      cases hchecked

/-- In every role, a rule that fits has a declared parameter. -/
theorem Fits.exists_type (h : rule.Fits registry scope) {role : TargetRole} {id : String}
    (hrole : (role, id) ∈ rule.roles) :
    ∃ type, scope.type? id = some type ∧ (role.isChecked → role.admits type) := by
  by_cases hchecked : role.isChecked
  · obtain ⟨type, htype, hadmits⟩ := h.exists_admitted hrole hchecked
    exact ⟨type, htype, fun _ ↦ hadmits⟩
  · have htarget : id ∈ rule.targets := by
      rw [← map_snd_roles]
      exact List.mem_map_of_mem hrole
    obtain ⟨type, htype⟩ := Option.isSome_iff_exists.mp (h.declares_targets id htarget)
    exact ⟨type, htype, fun hrefuted ↦ absurd hrefuted hchecked⟩

end Rule

/-! ### Compiled actions -/

namespace ActionType

variable {action : ActionType}

/-- In every role of a rule stands a parameter of the action, of a type that the role admits. -/
def RolesTyped (action : ActionType) : Prop :=
  ∀ rule ∈ action.logic, ∀ part ∈ rule.roles,
    ∃ parameter ∈ action.parameter? part.2, part.1.admits parameter.type

instance : Decidable action.RolesTyped :=
  inferInstanceAs (Decidable (∀ rule ∈ action.logic, ∀ part ∈ rule.roles,
    ∃ parameter ∈ action.parameter? part.2, part.1.admits parameter.type))

/-- Under distinct ids, an action has a parameter of an id and a type if these are in its scope. -/
theorem exists_parameter_iff {id : String} {type : ParameterType}
    (hdistinct : action.parameterIds.Nodup) :
    (∃ parameter ∈ action.parameter? id, parameter.type = type) ↔
      (id, type) ∈ action.parameterScope.declarations := by
  simp only [Option.mem_def, parameter?, Lookup.find?_eq_some_iff hdistinct, parameterScope,
    List.mem_map, Prod.mk.injEq, and_assoc]

end ActionType

theorem Scope.mem_declarations_of_type? {scope : Scope} {id : String} {type : ParameterType}
    (h : scope.type? id = some type) : (id, type) ∈ scope.declarations := by
  obtain ⟨⟨found, type⟩, hfound, rfl⟩ := Option.map_eq_some_iff.mp h
  obtain rfl : found = id := by simpa using List.find?_some hfound
  exact List.mem_reverse.mp (List.mem_of_find?_eq_some hfound)

namespace ManualDefinition

variable {registry : Registry} {definition : ManualDefinition} {compiled : CompiledAction}

/-- A rule on an interface names a parameter in a role that does not admit its type. -/
def MistypesRole (definition : ManualDefinition) : Prop :=
  ∃ rule ∈ definition.rules, ∃ part ∈ rule.roles, ¬ part.1.isChecked ∧
    ∃ parameter ∈ definition.parameters, parameter.id = part.2 ∧ ¬ part.1.admits parameter.type

instance : Decidable definition.MistypesRole :=
  inferInstanceAs (Decidable (∃ rule ∈ definition.rules, ∃ part ∈ rule.roles,
    ¬ part.1.isChecked ∧ ∃ parameter ∈ definition.parameters,
      parameter.id = part.2 ∧ ¬ part.1.admits parameter.type))

/-- The parameters of an action that is spelled out have ids of their own and the types that they
are declared with, and its rules fit them. -/
theorem fits_of_compile (h : definition.compile registry = .ok compiled) :
    compiled.actionType.logic = definition.rules ∧
      compiled.actionType.parameterIds.Nodup ∧
      compiled.actionType.parameterScope.declarations =
        definition.parameters.map (fun parameter ↦ (parameter.id, parameter.type)) ∧
      ∀ rule ∈ definition.rules, rule.Fits registry compiled.actionType.parameterScope := by
  obtain ⟨elaboration, helaborate, hlogic, hparameters⟩ :=
    (ActionDefinition.manual definition).exists_elaboration_of_compile h
  have hscope := ActionDefinition.scope_of_elaborate helaborate
  have hids := ActionDefinition.parameters_ids helaborate
  rw [ActionType.parameterIds, ActionType.parameterScope, hlogic, hparameters, ← hscope, hids]
  obtain ⟨hsketches, hdistinct, hpass, -, hrules, -⟩ := elaborate_eq_ok_iff.mp helaborate
  refine ⟨hrules, hdistinct, ?_, fun rule hrule ↦ Rule.check_eq_ok_iff.mp (hpass rule hrule)⟩
  rw [Elaboration.scope, ParameterSketch.scope, hsketches, List.map_map]
  rfl

/-- The parameters of the action are those that the definition declares. -/
theorem exists_parameter_iff_declared (h : definition.compile registry = .ok compiled) {id : String}
    {type : ParameterType} :
    (∃ parameter ∈ compiled.actionType.parameter? id, parameter.type = type) ↔
      ∃ declared ∈ definition.parameters, declared.id = id ∧ declared.type = type := by
  obtain ⟨-, hdistinct, hdeclared, -⟩ := fits_of_compile h
  simp only [ActionType.exists_parameter_iff hdistinct, hdeclared, List.mem_map, Prod.mk.injEq]

/-- In every role of an action that is spelled out stands a parameter of the action. In the roles on
objects its type is one that the role admits, and all other roles are right as well exactly when the
definition mistypes none of them. -/
theorem compile_roles (h : definition.compile registry = .ok compiled) :
    (∀ rule ∈ compiled.actionType.logic, ∀ part ∈ rule.roles,
      ∃ parameter ∈ compiled.actionType.parameter? part.2,
        part.1.isChecked → part.1.admits parameter.type) ∧
    (compiled.actionType.RolesTyped ↔ ¬ definition.MistypesRole) := by
  obtain ⟨hlogic, hdistinct, -, hfits⟩ := fits_of_compile h
  have hroles : ∀ rule ∈ compiled.actionType.logic, ∀ part ∈ rule.roles,
      ∃ parameter ∈ compiled.actionType.parameter? part.2,
        part.1.isChecked → part.1.admits parameter.type := by
    intro rule hrule part hpart
    obtain ⟨type, htype, hadmits⟩ := (hfits rule (hlogic ▸ hrule)).exists_type hpart
    obtain ⟨parameter, hparameter, rfl⟩ := (ActionType.exists_parameter_iff hdistinct).mpr
      (Scope.mem_declarations_of_type? htype)
    exact ⟨parameter, hparameter, hadmits⟩
  refine ⟨hroles, fun htyped ↦ ?_, fun hright rule hrule part hpart ↦ ?_⟩
  · rintro ⟨rule, hrule, part, hpart, -, declared, hmem, hid, hrefused⟩
    obtain ⟨parameter, hparameter, hadmits⟩ := htyped rule (hlogic ▸ hrule) part hpart
    obtain ⟨other, hother, htype⟩ :=
      (exists_parameter_iff_declared h).mpr ⟨declared, hmem, hid, rfl⟩
    obtain rfl : parameter = other := Option.mem_unique hparameter hother
    exact hrefused (htype ▸ hadmits)
  · obtain ⟨parameter, hparameter, hadmits⟩ := hroles rule hrule part hpart
    refine ⟨parameter, hparameter, ?_⟩
    by_contra hrefused
    obtain ⟨declared, hmem, hid, htype⟩ :=
      (exists_parameter_iff_declared h).mp ⟨parameter, hparameter, rfl⟩
    exact hright ⟨rule, hlogic ▸ hrule, part, hpart, fun hchecked ↦ hrefused (hadmits hchecked),
      declared, hmem, hid, htype ▸ hrefused⟩

end ManualDefinition

/-- An interface `tool` with a label of its own. -/
def Fixture.tool : List Definition :=
  [.interfaceType { name := .auto "tool", properties := [.inline (.auto "label") text] }]

/-- An action that creates a tool with a label. The type of tool is chosen through a parameter of
some type. -/
def Fixture.registerTool (kind : ParameterType) : ManualDefinition where
  id := ⟨"com.example.register-tool"⟩
  parameters := [{ id := "kind", type := kind }, { id := "label", type := .string }]
  rules :=
    [.addInterface ⟨"com.example.tool"⟩ "kind" [⟨⟨"com.example.label"⟩, .parameter "label"⟩]]

namespace ManualDefinition

/-- The type of a tool is chosen through a parameter, which is right unless it is a text. -/
theorem compile_registerTool :
    ∀ kind ∈ [ParameterType.objectTypeReference [⟨"com.example.tool"⟩], .string],
      ((Fixture.registerTool kind).compile (Fixture.registry Fixture.tool)).toOption.map
        (fun compiled ↦ (compiled.actionType.logic.flatMap (·.roles),
          decide compiled.actionType.RolesTyped)) =
        some ([(.objectType, "kind")], decide (kind ≠ .string)) := by
  decide +kernel

/-- The type of a tool is chosen through a parameter for object types. -/
theorem compile_roles_registerTool :
    ∃ compiled, (Fixture.registerTool (.objectTypeReference [⟨"com.example.tool"⟩])).compile
        (Fixture.registry Fixture.tool) = .ok compiled ∧
      compiled.actionType.logic.flatMap (·.roles) = [(.objectType, "kind")] ∧
      compiled.actionType.RolesTyped := by
  obtain ⟨compiled, hcompile, hview⟩ :=
    exists_of_toOption_map (compile_registerTool _ List.mem_cons_self)
  obtain ⟨hroles, -⟩ := Prod.mk.inj hview
  have hright :
      ¬ (Fixture.registerTool (.objectTypeReference [⟨"com.example.tool"⟩])).MistypesRole := by
    decide
  exact ⟨compiled, hcompile, hroles, (compile_roles hcompile).2.mpr hright⟩

/-- A tool is created although a text is to say of what type. -/
theorem not_forall_rolesTyped :
    ¬ ∀ (registry : Registry) (definition : ManualDefinition) (compiled : CompiledAction),
      definition.compile registry = .ok compiled → compiled.actionType.RolesTyped := by
  intro hall
  obtain ⟨compiled, hcompile, hview⟩ :=
    exists_of_toOption_map (compile_registerTool .string (by simp))
  exact of_decide_eq_false (Prod.mk.inj hview).2 (hall _ _ _ hcompile)

end ManualDefinition

end Ontology
