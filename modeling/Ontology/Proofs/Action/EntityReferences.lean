import Ontology.Proofs.Action.Drafts
import Ontology.Proofs.Inheritance.Resolution
import Ontology.Proofs.Registry.Entities

/-!
The entities that a compiled action refers to. Its rules name object types and interfaces, and so do
the types of its parameters, at any depth of lists (`ParameterType.references`). The rules of every
action that compiles refer to registered entities only, and so do the types that are derived from a
target: those of structural parameters name the target, and those of properties name nothing. The
types that an author gives are taken as they are. So the types of the parameters refer to registered
entities exactly when the given ones do (`compile_entityReferences`), and an object that is deleted
may be of a type which does not exist (`not_forall_references_hold`).
-/

set_option autoImplicit false
set_option relaxedAutoImplicit false

namespace Ontology

open Outcome

/-! ### References to entities -/

/-- The entities that a parameter type refers to, with their kinds. -/
def ParameterType.references : ParameterType → List (EntityKind × Identifier)
  | .objectReference id | .objectSet id => [(.objectType, id)]
  | .interfaceReference id => [(.interfaceType, id)]
  | .objectTypeReference ids => ids.map fun id ↦ (.interfaceType, id)
  | .list item => item.references
  | _ => []

/-- The entities that a rule names, with their kinds. -/
def Rule.references : Rule → List (EntityKind × Identifier)
  | .addObject objectType _ => [(.objectType, objectType)]
  | .addInterface interfaceType _ _ | .modifyInterface interfaceType _ _ _ =>
    [(.interfaceType, interfaceType)]
  | .modifyObject _ _ | .addOrModifyObject _ _ | .deleteObject _ => []

/-- The kind of entity that a target is. -/
def ActionTarget.kind (target : ActionTarget) : EntityKind :=
  if target.isInterface then .interfaceType else .objectType

/-- The entity of a reference is registered, defined or imported. -/
def Registry.Holds (registry : Registry) (reference : EntityKind × Identifier) : Prop :=
  (registry.lookup reference.1 reference.2).isSome

instance (registry : Registry) (reference : EntityKind × Identifier) :
    Decidable (registry.Holds reference) :=
  inferInstanceAs (Decidable ((registry.lookup reference.1 reference.2).isSome = true))

variable {registry : Registry} {scope : Scope} {rule : Rule} {target : ActionTarget}

namespace Registry

theorem holds_objectType {id : Identifier} {object : ObjectType}
    (h : registry.objectType? id = some object) : registry.Holds (.objectType, id) := by
  rw [Holds, lookup_objectType, h]
  rfl

theorem holds_interfaceType {id : Identifier} {interface : InterfaceType}
    (h : registry.interfaceType? id = some interface) : registry.Holds (.interfaceType, id) := by
  rw [Holds, lookup_interfaceType, h]
  rfl

theorem holds_of_interfaceProperties {id : Identifier} {effective : List EffectiveProperty}
    (h : registry.interfaceProperties id = .ok effective) :
    registry.Holds (.interfaceType, id) := by
  obtain ⟨flattened, hflattening, -⟩ := interfaceProperties_eq_ok_iff.mp h
  obtain ⟨interface, hinterface⟩ := hflattening.exists_interface
  exact holds_interfaceType hinterface

end Registry

/-- A target that resolves is registered. -/
theorem ActionTarget.holds_of_resolve {named : CrudTarget}
    (h : resolve registry named = .ok target) : registry.Holds (target.kind, target.id) := by
  rcases resolve_eq_ok_iff.mp h with ⟨id, object, -, hobject, rfl⟩ |
    ⟨id, interface, properties, -, hinterface, -, -, rfl⟩
  · exact Registry.holds_objectType hobject
  · exact Registry.holds_interfaceType hinterface

/-! ### Rules -/

/-- A rule that fits names registered entities. -/
theorem Rule.Fits.holds (h : rule.Fits registry scope) :
    ∀ reference ∈ rule.references, registry.Holds reference := by
  intro reference hreference
  cases h with
  | modifyObject | addOrModifyObject | deleteObject => cases hreference
  | addObject hvalues =>
    obtain ⟨object, hobject, -⟩ := checkObjectBindings_eq_ok_iff.mp hvalues
    rw [List.mem_singleton.mp hreference]
    exact Registry.holds_objectType hobject
  | addInterface _ hvalues | modifyInterface _ _ hvalues =>
    obtain ⟨effective, heffective, -⟩ := checkInterfaceBindings_eq_ok_iff.mp hvalues
    rw [List.mem_singleton.mp hreference]
    exact Registry.holds_of_interfaceProperties heffective

namespace CrudDefinition

variable {definition : CrudDefinition} {sketches : List ParameterSketch} {sketch : ParameterSketch}

/-- A generated rule names the target if it names anything. -/
theorem Emits.reference_eq (h : definition.Emits registry scope target rule) :
    ∀ reference ∈ rule.references, reference = (target.kind, target.id) := by
  intro reference hreference
  cases h with
  | modifyObject | addOrModifyObject | deleteObject => cases hreference
  | addObject hinterface =>
    rw [List.mem_singleton.mp hreference, ActionTarget.kind, hinterface]
    rfl
  | addInterface hinterface | modifyInterface hinterface | addOrModifyInterface hinterface =>
    rw [List.mem_singleton.mp hreference, ActionTarget.kind, hinterface]
    rfl

end CrudDefinition

/-! ### Types of parameters -/

/-- The type of a parameter that fills a property refers to no entity. -/
theorem PropertyType.references_of_parameterType? {type : PropertyType} {filled : ParameterType}
    (h : type.parameterType? = some filled) : filled.references = [] := by
  induction type using parameterType?.induct generalizing filled with
  | case1 type =>
    cases type <;> cases h <;> rfl
  | case2 fields =>
    cases h
    rfl
  | case3 item ih =>
    obtain ⟨inner, hinner, rfl⟩ := Option.map_eq_some_iff.mp h
    have hitem : inner.references = [] := ih hinner
    rwa [ParameterType.references]

namespace CrudDefinition

variable {definition : CrudDefinition} {sketches : List ParameterSketch} {sketch : ParameterSketch}
  {property : TargetProperty} {type : ParameterType}

/-- Structural parameters refer to the target and to nothing else. -/
theorem references_of_structural (kind : CrudKind) (target : ActionTarget) :
    ∀ parameter ∈ structuralParameters kind target,
      parameter.type.references = [(target.kind, target.id)] := by
  unfold structuralParameters ActionTarget.kind
  split_ifs <;> cases kind <;> simp [TargetRole.sketch, ParameterType.references]

/-- The author of a generated action gives a type to a parameter. Structural parameters have their
types already: a type in an entry for one of them is passed over, unless a property goes by the same
id. -/
def GivesType (definition : CrudDefinition) (target : ActionTarget) (type : ParameterType) :
    Prop :=
  ∃ entry ∈ definition.configuration, entry.2.type = some type ∧
    (entry.1 ∈ (structuralParameters definition.kind target).map (·.id) →
      entry.1 ∈ (definition.parameterProperties target).map (·.parameterId))

theorem type_of_propertyParameter (h : definition.propertyParameter property = .ok sketch) :
    definition.propertyParameterType property = .ok sketch.type := by
  simp only [propertyParameter, bind_eq_ok_iff, pure_eq_ok_iff] at h
  obtain ⟨type, htype, rfl⟩ := h
  exact htype

theorem type_of_addedParameter {id : String} {draft : ParameterDraft}
    (h : addedParameter target id draft = .ok sketch) : draft.type = some sketch.type := by
  unfold addedParameter at h
  split at h
  · next type htype =>
    cases h
    exact htype
  · split_ifs at h

/-- The parameter of a property has a type that refers to nothing unless its author gives it one. -/
theorem references_of_propertyParameter
    (hproperty : property ∈ definition.parameterProperties target)
    (h : definition.propertyParameter property = .ok sketch) :
    sketch.type.references = [] ∨ definition.GivesType target sketch.type := by
  have htype := type_of_propertyParameter h
  unfold propertyParameterType at htype
  split at htype
  · next type hgiven =>
    cases htype
    obtain ⟨draft, hdraft, hdrafted⟩ := Option.bind_eq_some_iff.mp hgiven
    obtain ⟨entry, hentry, rfl⟩ := Option.map_eq_some_iff.mp hdraft
    have hid : entry.1 = property.parameterId := by simpa using List.find?_some hentry
    refine .inr ⟨entry, List.mem_of_find?_eq_some hentry, hdrafted, fun _ ↦ ?_⟩
    exact List.mem_map.mpr ⟨property, hproperty, hid.symm⟩
  · split at htype
    · next type hfilled =>
      cases htype
      exact .inl (PropertyType.references_of_parameterType? hfilled)
    · cases htype

/-- The parameter of a property has the type that an entry of its id gives. -/
theorem type_eq_of_propertyParameter {entry : String × ParameterDraft}
    (hdistinct : (definition.configuration.map (·.1)).Nodup)
    (hentry : entry ∈ definition.configuration) (hid : property.parameterId = entry.1)
    (hgiven : entry.2.type = some type) (h : definition.propertyParameter property = .ok sketch) :
    sketch.type = type := by
  have hconfigured : (definition.configuration? property.parameterId).bind (·.type) =
      some type := by
    rw [configuration?, hid, Lookup.find?_eq_some hdistinct hentry]
    exact hgiven
  have htype := type_of_propertyParameter h
  rw [propertyParameterType, hconfigured] at htype
  exact (Except.ok.inj htype).symm

/-- The type of a synthesized parameter refers to the target alone or to nothing, or else its author
gives it. -/
theorem references_of_synthesize (h : definition.synthesize target = .ok sketches)
    (hsketch : sketch ∈ sketches) :
    (∀ reference ∈ sketch.type.references, reference = (target.kind, target.id)) ∨
      definition.GivesType target sketch.type := by
  obtain ⟨-, ofProperties, hproperties, added, hadded, rfl⟩ := synthesize_eq_ok_iff.mp h
  obtain ⟨parameter, hparameter, rfl⟩ := List.mem_map.mp hsketch
  rw [relabel_type]
  rcases List.mem_append.mp hparameter with hexisting | hnew
  · rcases List.mem_append.mp hexisting with hstructural | hfills
    · rw [references_of_structural definition.kind target parameter hstructural]
      exact .inl fun _ ↦ List.mem_singleton.mp
    · obtain ⟨property, hproperty, hfills⟩ := exists_of_mem_mapM hproperties hfills
      refine (references_of_propertyParameter hproperty hfills).imp_left fun hnone ↦ ?_
      rw [hnone]
      exact fun _ hnil ↦ absurd hnil List.not_mem_nil
  · obtain ⟨entry, hentry, hadds⟩ :=
      exists_of_mem_mapM (addedParameters_eq_ok_iff.mp hadded).2 hnew
    obtain ⟨hentry, hfree⟩ := List.mem_filter.mp hentry
    refine .inr ⟨entry, hentry, type_of_addedParameter hadds, fun hstructural ↦ ?_⟩
    refine absurd ?_ (of_decide_eq_true hfree)
    rw [List.map_append]
    exact List.mem_append_left _ hstructural

/-- Every given type is that of a synthesized parameter. -/
theorem exists_type_of_synthesize (h : definition.synthesize target = .ok sketches)
    (hgiven : definition.GivesType target type) : ∃ sketch ∈ sketches, sketch.type = type := by
  obtain ⟨entry, hentry, htype, hstructural⟩ := hgiven
  obtain ⟨-, ofProperties, hproperties, added, hadded, rfl⟩ := synthesize_eq_ok_iff.mp h
  obtain ⟨⟨hdistinct, -⟩, hadded⟩ := addedParameters_eq_ok_iff.mp hadded
  have hids : ofProperties.map (·.id) =
      (definition.parameterProperties target).map (·.parameterId) :=
    map_eq_of_mapM hproperties fun _ _ ↦ propertyParameter_id
  suffices hsketch :
      ∃ sketch ∈ structuralParameters definition.kind target ++ ofProperties ++ added,
        sketch.type = type by
    obtain ⟨sketch, hmem, hsketch⟩ := hsketch
    exact ⟨definition.relabel sketch, List.mem_map_of_mem hmem, relabel_type sketch ▸ hsketch⟩
  by_cases hproperty : entry.1 ∈ (definition.parameterProperties target).map (·.parameterId)
  · obtain ⟨property, hmem, hid⟩ := List.mem_map.mp hproperty
    obtain ⟨sketch, hsketch, hfills⟩ := exists_ok_of_mem_mapM hproperties hmem
    exact ⟨sketch, List.mem_append_left _ (List.mem_append_right _ hsketch),
      type_eq_of_propertyParameter hdistinct hentry hid htype hfills⟩
  · have hfree : entry.1 ∉
        (structuralParameters definition.kind target ++ ofProperties).map (·.id) := by
      rw [List.map_append, hids, List.mem_append]
      exact fun hexisting ↦ hproperty (hexisting.elim hstructural fun hfills ↦ hfills)
    have hkept : entry ∈ definition.configuration.filter fun entry ↦ entry.1 ∉
        (structuralParameters definition.kind target ++ ofProperties).map (·.id) :=
      List.mem_filter.mpr ⟨hentry, decide_eq_true hfree⟩
    obtain ⟨sketch, hsketch, hadds⟩ := exists_ok_of_mem_mapM hadded hkept
    have hadds := type_of_addedParameter hadds
    rw [htype] at hadds
    exact ⟨sketch, List.mem_append_right _ hsketch, (Option.some.inj hadds).symm⟩

end CrudDefinition

/-! ### Compiled actions -/

/-- The entities that an action refers to, in its rules and in the types of its parameters. -/
def ActionType.references (action : ActionType) : List (EntityKind × Identifier) :=
  action.logic.flatMap (·.references) ++ action.parameters.flatMap (·.type.references)

namespace ActionDefinition

variable {definition : ActionDefinition} {elaboration : Elaboration} {compiled : CompiledAction}
  {type : ParameterType}

/-- The author gives a type to a parameter. -/
def GivesType (registry : Registry) (type : ParameterType) : ActionDefinition → Prop
  | .generated definition =>
    ∃ target, ActionTarget.resolve registry definition.target = .ok target ∧
      definition.GivesType target type
  | .manual definition => ∃ parameter ∈ definition.parameters, parameter.type = type

/-- The rules of an elaboration name registered entities. -/
theorem rules_hold_of_elaborate (h : definition.elaborate registry = .ok elaboration) :
    ∀ rule ∈ elaboration.rules, ∀ reference ∈ rule.references, registry.Holds reference := by
  cases definition with
  | generated definition =>
    obtain ⟨target, htarget, -, -, ⟨rule, hrule, hrules⟩, -⟩ :=
      CrudDefinition.elaborate_eq_ok_iff.mp h
    rw [hrules, List.forall_mem_singleton]
    intro reference hreference
    rw [(CrudDefinition.emits_of_rule hrule).reference_eq reference hreference]
    exact ActionTarget.holds_of_resolve htarget
  | manual definition =>
    obtain ⟨-, -, hpass, -, hrules, -⟩ := ManualDefinition.elaborate_eq_ok_iff.mp h
    rw [hrules]
    exact fun rule hrule ↦ (Rule.check_eq_ok_iff.mp (hpass rule hrule)).holds

/-- The type of a parameter of an elaboration refers to registered entities, unless its author gives
it. -/
theorem types_hold_of_elaborate (h : definition.elaborate registry = .ok elaboration) :
    ∀ sketch ∈ elaboration.sketches,
      (∀ reference ∈ sketch.type.references, registry.Holds reference) ∨
        definition.GivesType registry sketch.type := by
  cases definition with
  | generated definition =>
    obtain ⟨target, htarget, hsketches, -⟩ := CrudDefinition.elaborate_eq_ok_iff.mp h
    intro sketch hsketch
    rcases CrudDefinition.references_of_synthesize hsketches hsketch with htargets | hgiven
    · refine .inl fun reference hreference ↦ ?_
      rw [htargets reference hreference]
      exact ActionTarget.holds_of_resolve htarget
    · exact .inr ⟨target, htarget, hgiven⟩
  | manual definition =>
    obtain ⟨hsketches, -⟩ := ManualDefinition.elaborate_eq_ok_iff.mp h
    rw [hsketches, List.forall_mem_map]
    exact fun parameter hparameter ↦ .inr ⟨parameter, hparameter, rfl⟩

/-- Every given type is that of a parameter of the elaboration. -/
theorem exists_type_of_elaborate (h : definition.elaborate registry = .ok elaboration)
    (hgiven : definition.GivesType registry type) :
    ∃ sketch ∈ elaboration.sketches, sketch.type = type := by
  cases definition with
  | generated definition =>
    obtain ⟨target, htarget, hsketches, -⟩ := CrudDefinition.elaborate_eq_ok_iff.mp h
    obtain ⟨other, hother, hgiven⟩ := hgiven
    obtain rfl : target = other := Except.ok.inj (htarget.symm.trans hother)
    exact CrudDefinition.exists_type_of_synthesize hsketches hgiven
  | manual definition =>
    obtain ⟨hsketches, -⟩ := ManualDefinition.elaborate_eq_ok_iff.mp h
    obtain ⟨parameter, hparameter, rfl⟩ := hgiven
    rw [hsketches]
    exact ⟨parameter.sketch, List.mem_map_of_mem hparameter, rfl⟩

/-- The parameters of an elaboration have the types of its sketches. -/
theorem types_of_elaborate (h : definition.elaborate registry = .ok elaboration) :
    elaboration.parameters.map (·.type) = elaboration.sketches.map (·.type) := by
  rw [eq_comm, ← List.forall₂_eq_eq_eq, List.forall₂_map_left_iff, List.forall₂_map_right_iff]
  exact (configure_of_elaborate h).imp fun _ _ hparameter ↦ hparameter.2.1.symm

/-- The rules of an action that compiles refer to registered entities. So does the whole action
exactly when the types that its author gives do. -/
theorem compile_entityReferences (h : definition.compile registry = .ok compiled) :
    (∀ rule ∈ compiled.actionType.logic, ∀ reference ∈ rule.references,
      registry.Holds reference) ∧
    ((∀ reference ∈ compiled.actionType.references, registry.Holds reference) ↔
      ∀ type, definition.GivesType registry type →
        ∀ reference ∈ type.references, registry.Holds reference) := by
  obtain ⟨elaboration, helaborate, hlogic, hparameters⟩ := exists_elaboration_of_compile h
  have hrules := rules_hold_of_elaborate helaborate
  have htypes : compiled.actionType.parameters.flatMap (·.type.references) =
      (elaboration.sketches.map (·.type)).flatMap (·.references) := by
    rw [hparameters, ← types_of_elaborate helaborate, List.flatMap_map]
  rw [ActionType.references, htypes, hlogic]
  refine ⟨hrules, fun hall type hgiven reference hreference ↦ ?_,
    fun hgiven reference hreference ↦ ?_⟩
  · have htype : type ∈ elaboration.sketches.map (·.type) :=
      List.mem_map.mpr (exists_type_of_elaborate helaborate hgiven)
    exact hall reference (List.mem_append_right _ (List.mem_flatMap.mpr ⟨type, htype, hreference⟩))
  · rcases List.mem_append.mp hreference with hrule | htype
    · obtain ⟨rule, hrule, hreference⟩ := List.mem_flatMap.mp hrule
      exact hrules rule hrule reference hreference
    · obtain ⟨type, htype, hreference⟩ := List.mem_flatMap.mp htype
      obtain ⟨sketch, hsketch, rfl⟩ := List.mem_map.mp htype
      rcases types_hold_of_elaborate helaborate sketch hsketch with hholds | hauthor
      · exact hholds reference hreference
      · exact hgiven sketch.type hauthor reference hreference

end ActionDefinition

/-- An action that deletes an object of some type. -/
def Fixture.discard (objectType : Identifier) : ManualDefinition where
  id := ⟨"com.example.discard"⟩
  parameters := [{ id := "target", type := .objectReference objectType }]
  rules := [.deleteObject "target"]

namespace ActionDefinition

/-- A copy of a `foo` refers to an object type that is there. An action that deletes an object need
not. -/
theorem compile_references_foo :
    ((generated (Fixture.copyFoo "original")).compile
      (Fixture.registry Fixture.foo)).toOption.map (·.actionType.references) =
        some [(.objectType, ⟨"com.example.foo"⟩), (.objectType, ⟨"com.example.foo"⟩)] ∧
    (∀ reference ∈ (ParameterType.objectReference ⟨"com.example.foo"⟩).references,
      (Fixture.registry Fixture.foo).Holds reference) ∧
    ((manual (Fixture.discard ⟨"com.example.ghost"⟩)).compile
      (Fixture.registry Fixture.foo)).toOption.map (·.actionType.references) =
        some [(.objectType, ⟨"com.example.ghost"⟩)] ∧
    ¬ (Fixture.registry Fixture.foo).Holds (.objectType, ⟨"com.example.ghost"⟩) := by
  decide +kernel

/-- A `foo` is created after the model of another one, which is chosen through a parameter of a
given type. -/
theorem compile_entityReferences_copyFoo :
    ∃ compiled, (generated (Fixture.copyFoo "original")).compile (Fixture.registry Fixture.foo) =
        .ok compiled ∧
      compiled.actionType.references =
        [(.objectType, ⟨"com.example.foo"⟩), (.objectType, ⟨"com.example.foo"⟩)] ∧
      ∀ reference ∈ compiled.actionType.references,
        (Fixture.registry Fixture.foo).Holds reference := by
  obtain ⟨hcomputed, hfoo, -⟩ := compile_references_foo
  obtain ⟨compiled, hcompile, hreferences⟩ := exists_of_toOption_map hcomputed
  have hgiven : ∀ type,
      (generated (Fixture.copyFoo "original")).GivesType (Fixture.registry Fixture.foo) type →
        ∀ reference ∈ type.references, (Fixture.registry Fixture.foo).Holds reference := by
    rintro type ⟨target, -, entry, hentry, htype, -⟩
    have hauthor : type = .objectReference ⟨"com.example.foo"⟩ := by
      simp only [Fixture.copyFoo, List.mem_cons, List.not_mem_nil, or_false] at hentry
      rcases hentry with rfl | rfl
      · cases htype
      · exact (Option.some.inj htype).symm
    rw [hauthor]
    exact hfoo
  exact ⟨compiled, hcompile, hreferences, (compile_entityReferences hcompile).2.mpr hgiven⟩

/-- An object is deleted although its type does not exist. -/
theorem not_forall_references_hold :
    ¬ ∀ (registry : Registry) (definition : ActionDefinition) (compiled : CompiledAction),
      definition.compile registry = .ok compiled →
        ∀ reference ∈ compiled.actionType.references, registry.Holds reference := by
  intro hall
  obtain ⟨-, -, hcomputed, hghost⟩ := compile_references_foo
  obtain ⟨compiled, hcompile, hreferences⟩ := exists_of_toOption_map hcomputed
  exact hghost (hall _ _ _ hcompile _ (hreferences ▸ List.mem_singleton_self _))

end ActionDefinition

end Ontology
