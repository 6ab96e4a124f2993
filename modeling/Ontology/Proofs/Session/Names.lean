import Ontology.Proofs.Action.Drafts
import Ontology.Proofs.Action.Layout
import Ontology.Proofs.Action.Target
import Ontology.Proofs.Naming.Grammar
import Ontology.Proofs.Session.Restrictions

/-!
The names in a strict session. Every definition checks the identifiers that it introduces and the
api names of an object's properties, so these are well formed throughout
(`Session.wellNamed_performAll`). An action has two more kinds of names. Of its parameter ids the
author writes some, and these are checked; others are taken from the properties of the target. On an
object these are api names already, on an interface they are local names of identifiers, for which
the rule is a wider one, and nothing looks at them again. Section ids are not checked at all.

`Session.names_performAll` says what this leaves: the parameter ids of an action that are no api
names are those that derive from a property of an interface, and the section ids are those that the
author of the action gives.
-/

set_option autoImplicit false
set_option relaxedAutoImplicit false

namespace Ontology

open Outcome

/-! ### Checks of names -/

namespace NamingPolicy

variable {policy : NamingPolicy}

theorem wellFormed_of_checkIds {ids : List Identifier} (hstrict : policy.strict)
    (h : policy.checkIds ids = .ok ()) : ∀ id ∈ ids, id.WellFormed := by
  rw [checkIds, if_pos hstrict, forM_eq_ok_iff] at h
  exact fun id hid ↦ Identifier.check_eq_ok_iff.mp (h id hid)

theorem isApiName_of_checkApiNames {names : List String} (hstrict : policy.strict)
    (h : policy.checkApiNames names = .ok ()) : ∀ name ∈ names, IsApiName name := by
  rw [checkApiNames, if_pos hstrict, forM_eq_ok_iff] at h
  exact fun name hname ↦ checkApiName_eq_ok_iff.mp (h name hname)

end NamingPolicy

/-! ### Names of entities -/

namespace Entity

/-- The identifiers that an entity introduces: its own, and on an interface those of the properties
as well. -/
def identifiers : Entity → List Identifier
  | .sharedPropertyType type => [type.id]
  | .interfaceType type => type.id :: type.properties.map (·.id)
  | .objectType type => [type.id]
  | .actionType type => [type.id]
  | .valueType type => [type.id]

/-- The api names of the properties of an object. -/
def propertyNames : Entity → List String
  | .objectType type => type.propertyNames
  | _ => []

/-- The identifiers of an entity keep the naming rule, and so do the api names of its properties. -/
structure WellNamed (entity : Entity) : Prop where
  identifiers : ∀ id ∈ entity.identifiers, id.WellFormed
  propertyNames : ∀ name ∈ entity.propertyNames, IsApiName name

end Entity

variable {policy : NamingPolicy} {registry next : Registry} {definition : Definition}

/-- The identifiers of an interface are checked with those of its properties, and these cover the
shared property types that it brings along. -/
theorem InterfaceDraft.mem_of_mem_sharedProperties {draft : InterfaceDraft}
    {type : SharedPropertyType} (htype : type ∈ draft.sharedProperties policy) :
    type.id ∈ (draft.build policy).properties.map (·.id) := by
  obtain ⟨shared, hshared, rfl⟩ := List.mem_map.mp htype
  obtain ⟨property, hproperty, hdefines⟩ := List.mem_filterMap.mp hshared
  refine List.mem_map.mpr ⟨property.build policy, List.mem_map_of_mem hproperty, ?_⟩
  cases property with
  | defined =>
    cases hdefines
    rfl
  | shared | inline => cases hdefines

theorem ObjectDraft.wellNamed_of_build {draft : ObjectDraft} {object : ObjectType}
    (hstrict : policy.strict) (h : draft.build policy registry = .ok object) :
    (Entity.objectType object).WellNamed := by
  obtain ⟨hid, hnames, properties, hproperties, -, -, -, -, -, -, rfl⟩ := build_eq_ok_iff.mp h
  refine ⟨NamingPolicy.wellFormed_of_checkIds hstrict hid, ?_⟩
  rw [Entity.propertyNames, ObjectType.propertyNames,
    ObjectPropertyDraft.apiNames_of_buildAll hproperties]
  exact NamingPolicy.isApiName_of_checkApiNames hstrict hnames

namespace Definition

/-- Of an action the identifier is checked, and the parameter ids that its author writes. -/
theorem names_of_apply {action : ActionDefinition}
    (haction : definition.action? policy = some action)
    (happly : definition.apply policy registry = .ok next) :
    policy.checkIds [action.id] = .ok () ∧
      policy.checkApiNames (action.drafts.map (·.1)) = .ok () := by
  cases apply_eq_ok_iff.mp happly with
  | generatedAction hname hparameters =>
    cases haction
    exact ⟨hname, hparameters⟩
  | @manualAction draft _ hname hparameters =>
    cases haction
    have hids : (ActionDefinition.manual (draft.qualify policy)).drafts.map (·.1) =
        draft.parameters.map (·.id) :=
      List.map_map
    exact ⟨hname, hids ▸ hparameters⟩
  | sharedProperty | valueType | interfaceType | objectType => cases haction

/-- A definition under a strict policy keeps all entities well named. -/
theorem apply_wellNamed (hstrict : policy.strict) (h : registry.Every Entity.WellNamed)
    (happly : definition.apply policy registry = .ok next) : next.Every Entity.WellNamed := by
  cases haction : definition.action? policy with
  | some action =>
    obtain ⟨compiled, hcompile, rfl⟩ := exists_compiled_of_apply haction happly
    refine h.registerAction ⟨?_, nofun⟩
    rw [Entity.identifiers, (ActionDefinition.compile_submission hcompile).1]
    exact NamingPolicy.wellFormed_of_checkIds hstrict (names_of_apply haction happly).1
  | none =>
    cases apply_eq_ok_iff.mp happly with
    | sharedProperty hnames =>
      exact h.register ⟨NamingPolicy.wellFormed_of_checkIds hstrict hnames, nofun⟩
    | valueType hname =>
      have hid := Identifier.check_eq_ok_iff.mp hname
      exact h.register ⟨List.forall_mem_singleton.mpr hid, nofun⟩
    | interfaceType hnames =>
      have hids := NamingPolicy.wellFormed_of_checkIds hstrict hnames
      refine h.extend (fun type htype ↦ ⟨List.forall_mem_singleton.mpr ?_, nofun⟩) ⟨hids, nofun⟩
      exact hids _ (List.mem_cons_of_mem _ (InterfaceDraft.mem_of_mem_sharedProperties htype))
    | objectType hbuild => exact h.register (ObjectDraft.wellNamed_of_build hstrict hbuild)
    | generatedAction | manualAction => cases haction

end Definition

/-! ### Names inside an action -/

/-- A property of an interface gets a parameter in a generated action, under its local name: the
action does not delete, and it neither leaves the property out nor fixes its value. -/
def CrudDefinition.Derives (definition : CrudDefinition) (registry : Registry)
    (property : EffectiveProperty) : Prop :=
  ∃ id effective, definition.target = .interface id ∧
    registry.interfaceProperties id = .ok effective ∧ property ∈ effective ∧
    definition.kind ≠ .delete ∧ property.id.text ∉ definition.excluded ∧
    definition.fixedValue? property.id.text = none

/-- A parameter of an action derives from a property of an interface. In an action that is spelled
out none does. -/
def ActionDefinition.Derives (registry : Registry) (property : EffectiveProperty) :
    ActionDefinition → Prop
  | .generated definition => definition.Derives registry property
  | .manual _ => False

theorem TargetRole.isApiName_parameterId (role : TargetRole) : IsApiName role.parameterId := by
  cases role <;> decide +kernel

theorem isApiName_structuralParameters (kind : CrudKind) (target : ActionTarget) :
    ∀ id ∈ (structuralParameters kind target).map (·.id), IsApiName id := by
  unfold structuralParameters
  split_ifs <;> cases kind <;> simp [TargetRole.sketch, TargetRole.isApiName_parameterId]

namespace CrudDefinition

variable {definition : CrudDefinition} {target : ActionTarget} {name : String}

/-- The parameters of the properties of an interface derive from them. -/
theorem mem_parameterProperties_iff {id : Identifier} {interface : InterfaceType}
    {effective : List EffectiveProperty} (htarget : definition.target = .interface id)
    (hproperties : registry.interfaceProperties id = .ok effective) :
    name ∈ (definition.parameterProperties
        (.ofInterface id interface effective)).map (·.parameterId) ↔
      ∃ property, definition.Derives registry property ∧ property.id.localName = name := by
  -- Objects of an interface have no primary key to keep.
  have htakes (property : EffectiveProperty) :
      definition.takesParameter (.ofInterface id interface effective) property.toTarget ↔
        definition.kind ≠ .delete ∧ property.id.text ∉ definition.excluded ∧
          definition.fixedValue? property.id.text = none := by
    have hkey (key : String) :
        definition.isKeptKey (.ofInterface id interface effective) key = false := by
      simp [isKeptKey, ActionTarget.ofInterface]
    simp only [takesParameter, hkey, Bool.and_eq_true, decide_eq_true_eq,
      Option.isNone_iff_eq_none, Bool.not_false, and_true, and_assoc]
    rfl
  simp only [parameterProperties, ActionTarget.ofInterface, List.mem_map, List.mem_filter]
  constructor
  · rintro ⟨_, ⟨⟨property, hmem, rfl⟩, htaken⟩, rfl⟩
    exact ⟨property, ⟨id, effective, htarget, hproperties, hmem, (htakes property).mp htaken⟩, rfl⟩
  · rintro ⟨property, ⟨other, others, hother, hothers, hmem, htaken⟩, rfl⟩
    cases htarget.symm.trans hother
    cases hproperties.symm.trans hothers
    exact ⟨_, ⟨⟨property, hmem, rfl⟩, (htakes property).mpr htaken⟩, rfl⟩

/-- The parameters of properties derive from those of an interface, or have api names. -/
theorem mem_parameterProperties_iff_of_misnamed (h : registry.Every Entity.WellNamed)
    (htarget : ActionTarget.resolve registry definition.target = .ok target)
    (hname : ¬ IsApiName name) :
    name ∈ (definition.parameterProperties target).map (·.parameterId) ↔
      ∃ property, definition.Derives registry property ∧ property.id.localName = name := by
  rcases ActionTarget.resolve_eq_ok_iff.mp htarget with ⟨id, object, hobject, hfound, rfl⟩ |
    ⟨id, interface, effective, hinterface, -, hproperties, -, rfl⟩
  · have hlookup : registry.lookup .objectType id = some (.objectType object) := by
      rw [Registry.lookup_objectType, hfound, Option.map_some]
    have hnames := (h.of_lookup hlookup).propertyNames
    constructor
    · intro hmem
      obtain ⟨property, hproperty, rfl⟩ := List.mem_map.mp hmem
      obtain ⟨declared, hdeclared, rfl⟩ := List.mem_map.mp (List.mem_filter.mp hproperty).1
      exact absurd (hnames _ (List.mem_map_of_mem hdeclared)) hname
    · rintro ⟨property, ⟨other, effective, hother, -⟩, -⟩
      cases hobject.symm.trans hother
  · exact mem_parameterProperties_iff hinterface hproperties

end CrudDefinition

namespace ActionDefinition

variable {action : ActionDefinition} {compiled : CompiledAction}

/-- Where all other names are well formed, the parameter ids that are no api names are those that
derive from a property of an interface. -/
theorem mem_ids_iff_of_misnamed (h : registry.Every Entity.WellNamed)
    (hdrafts : ∀ name ∈ action.drafts.map (·.1), IsApiName name)
    (hcompile : action.compile registry = .ok compiled) {name : String}
    (hname : ¬ IsApiName name) :
    name ∈ compiled.actionType.parameters.map (·.id) ↔
      ∃ property, action.Derives registry property ∧ property.id.localName = name := by
  have hdrafted : name ∉ action.drafts.map (·.1) := fun hmem ↦ hname (hdrafts name hmem)
  obtain ⟨elaboration, helaborate, -, hparameters⟩ := exists_elaboration_of_compile hcompile
  rw [hparameters, parameters_ids helaborate]
  cases action with
  | manual definition =>
    rw [ids_of_manual helaborate]
    exact ⟨fun hmem ↦ absurd hmem hdrafted, fun ⟨_, hderives, _⟩ ↦ hderives.elim⟩
  | generated definition =>
    obtain ⟨target, htarget, hsketches, -⟩ := CrudDefinition.elaborate_eq_ok_iff.mp helaborate
    have hconfigured : name ∉ definition.configuration.map (·.1) := hdrafted
    have hstructural : name ∉ (structuralParameters definition.kind target).map (·.id) :=
      fun hmem ↦ hname (isApiName_structuralParameters definition.kind target name hmem)
    rw [Elaboration.ids, CrudDefinition.mem_ids_of_synthesize hsketches]
    calc name ∈ (structuralParameters definition.kind target).map (·.id) ∨
          name ∈ (definition.parameterProperties target).map (·.parameterId) ∨
            name ∈ definition.configuration.map (·.1)
        ↔ name ∈ (definition.parameterProperties target).map (·.parameterId) := by
          rw [or_iff_right hstructural, or_iff_left hconfigured]
      _ ↔ _ := CrudDefinition.mem_parameterProperties_iff_of_misnamed h htarget hname

/-- The sections of an action go by the ids that its author gives, wherever they are named. -/
theorem sectionIds_of_compile (hcompile : action.compile registry = .ok compiled) :
    compiled.actionType.sections.map (·.id) = action.frame.sections.map (·.id) ∧
      compiled.actionType.validation.sections.map (·.sectionId) =
        action.frame.sections.map (·.id) := by
  obtain ⟨elaboration, -, ordering, -, hassemble⟩ := compile_eq_ok_iff.mp hcompile
  obtain ⟨layout, hlayout, submission, -, rfl⟩ := ActionFrame.assemble_eq_ok_iff.mp hassemble
  have hsections : layout.sections.map (·.id) = action.frame.sections.map (·.id) := by
    obtain ⟨-, validations, -, rfl⟩ := SectionLayout.ofDrafts_eq_ok_iff.mp hlayout
    exact List.map_map
  exact ⟨hsections, (SectionLayout.sectionIds_of_ofDrafts hlayout).trans hsections⟩

end ActionDefinition

/-! ### Names of a session -/

namespace Session

variable {start : Session} {operations : List Operation} {action : ActionDefinition}
  {id : Identifier}

/-- All entities of a strict session are well named if those are that are imported. -/
theorem wellNamed_performAll {options : SessionOptions} (hstart : Session.start options = .ok start)
    (hstrict : options.strict)
    (himported : ∀ entity, .addImported entity ∈ operations → entity.WellNamed) :
    (start.performAll operations).registry.Every Entity.WellNamed := by
  obtain ⟨hempty, hpolicy⟩ := of_start hstart
  refine performAll_keeps (hempty ▸ Registry.every_empty) Registry.every_empty
    (fun _ _ _ happly h ↦ ?_) fun entity hmem _ h ↦ h.addImported (himported entity hmem)
  exact Definition.apply_wellNamed (hpolicy.trans hstrict) h happly

/-- The latest action of an identifier was defined at some point of the run, and what was registered
then is still there. -/
theorem LatestAction.exists_apply (h : start.LatestAction id operations action) :
    ∃ (before : List Operation) (definition : Definition) (next : Registry), before <+: operations ∧
      definition.action? start.policy = some action ∧
      definition.apply start.policy (start.performAll before).registry = .ok next ∧
      (start.performAll operations).registry.defined.actionTypes.get? id =
        next.defined.actionTypes.get? id := by
  induction h with
  | @defined operations operation action hdefines =>
    obtain @⟨definition, action, _, haction, haccepted⟩ := hdefines
    have hperformed := perform_define haccepted
    obtain ⟨next, happly, rfl⟩ := define_eq_ok_iff.mp haccepted
    rw [performAll_policy] at haction happly
    refine ⟨operations, definition, next, List.prefix_append _ _, haction, happly, ?_⟩
    rw [performAll_concat, hperformed]
  | later _ hreset hother ih =>
    obtain ⟨before, definition, next, hbefore, haction, happly, hsame⟩ := ih
    refine ⟨before, definition, next, hbefore.trans (List.prefix_append _ _), haction, happly, ?_⟩
    rw [performAll_concat]
    exact (sameAt_perform hreset hother).action.trans hsame

/-- Every action of a session is the latest one of its identifier, as it was compiled when it was
defined. -/
theorem exists_compile_of_get? {options : SessionOptions}
    (hstart : Session.start options = .ok start) {type : ActionType}
    (htype : (start.performAll operations).registry.defined.actionTypes.get? id = some type) :
    ∃ action before compiled, start.LatestAction id operations action ∧ before <+: operations ∧
      start.policy.checkApiNames (action.drafts.map (·.1)) = .ok () ∧
      action.compile (start.performAll before).registry = .ok compiled ∧
      compiled.actionType = type := by
  have hlatest : ∃ action, start.LatestAction id operations action := by
    by_contra hnone
    have hvacant := vacant_of_not_latestAction (of_start hstart).1 (not_exists.mp hnone)
    cases hvacant.action.symm.trans htype
  obtain ⟨action, hlatest⟩ := hlatest
  obtain ⟨before, definition, next, hbefore, haction, happly, hsame⟩ := hlatest.exists_apply
  obtain ⟨compiled, hcompile, rfl⟩ := Definition.exists_compiled_of_apply haction happly
  refine ⟨action, before, compiled, hlatest, hbefore,
    (Definition.names_of_apply haction happly).2, hcompile, ?_⟩
  have hid : id = compiled.actionType.id :=
    hlatest.id_eq.symm.trans (ActionDefinition.compile_submission hcompile).1.symm
  have hfound : (compiled.register (start.performAll before).registry).defined.actionTypes.get? id =
      some compiled.actionType := by
    rw [CompiledAction.register_defined]
    exact (Table.get?_insert _ _ _ _).trans (if_pos hid)
  exact Option.some.inj (hfound.symm.trans (hsame.symm.trans htype))

/-- Whatever is done in a fresh strict session, as long as what it imports is well named: the
identifiers of its entities and of the properties of its interfaces keep the naming rule, and the
properties of its objects have api names. Each of its actions is one that was defined in the
session; the parameters that have no api names derive from properties of an interface in the
registry at that time, and the sections go by the ids that were given there. -/
theorem names_performAll {options : SessionOptions} (hstart : Session.start options = .ok start)
    (hstrict : options.strict)
    (himported : ∀ entity, .addImported entity ∈ operations → entity.WellNamed) :
    (start.performAll operations).registry.defined.Every Entity.WellNamed ∧
    ∀ id type, (start.performAll operations).registry.defined.actionTypes.get? id = some type →
      ∃ action before compiled, start.LatestAction id operations action ∧ before <+: operations ∧
        action.compile (start.performAll before).registry = .ok compiled ∧
        compiled.actionType = type ∧
        (∀ name, ¬ IsApiName name → (name ∈ type.parameters.map (·.id) ↔
          ∃ property, action.Derives (start.performAll before).registry property ∧
            property.id.localName = name)) ∧
        type.sections.map (·.id) = action.frame.sections.map (·.id) ∧
        type.validation.sections.map (·.sectionId) = action.frame.sections.map (·.id) := by
  refine ⟨(wellNamed_performAll hstart hstrict himported).defined, fun id type htype ↦ ?_⟩
  obtain ⟨action, before, compiled, hlatest, hbefore, hdrafts, hcompile, rfl⟩ :=
    exists_compile_of_get? hstart htype
  have hwellNamed := wellNamed_performAll hstart hstrict fun entity hentity ↦
    himported entity (hbefore.subset hentity)
  have hdrafted := NamingPolicy.isApiName_of_checkApiNames
    ((of_start hstart).2.trans hstrict) hdrafts
  refine ⟨action, before, compiled, hlatest, hbefore, hcompile, rfl, fun name hname ↦ ?_, ?_⟩
  · exact ActionDefinition.mem_ids_iff_of_misnamed hwellNamed hdrafted hcompile hname
  · exact ActionDefinition.sectionIds_of_compile hcompile

end Session

/-! ### Names that break the rules -/

/-- An interface `device` with a serial number, and an action that creates a device. The name of the
serial number has a capital and a hyphen in it, and the one section of the form is named by two
words. -/
def Fixture.device : List Definition :=
  [.interfaceType
    { name := .auto "device", properties := [.inline (.auto "Serial-no") text] },
  .generatedAction
    { kind := .create
      target := .interface (.auto "device")
      sections := [{ id := "Main section", parameters := ["Serial-no"] }] }]

namespace Session

/-- The session with devices has an action with a parameter and a section whose names are no api
names. -/
theorem exists_device :
    ∃ start type, Session.start { qualifier := "com.example" } = .ok start ∧
      (start.performAll (Fixture.device.map .define)).registry.defined.actionTypes.get?
        ⟨"com.example.create-interface-object-device"⟩ = some type ∧
      type.parameters.map (·.id) = ["objectTypeParameter", "Serial-no"] ∧
      type.sections.map (·.id) = ["Main section"] := by
  have hcomputed : (Session.start { qualifier := "com.example" }).toOption.map (fun start ↦
      ((start.performAll (Fixture.device.map .define)).registry.defined.actionTypes.get?
        ⟨"com.example.create-interface-object-device"⟩).map fun type ↦
          (type.parameters.map (·.id), type.sections.map (·.id))) =
      some (some (["objectTypeParameter", "Serial-no"], ["Main section"])) := by
    decide +kernel
  obtain ⟨start, hstart, hview⟩ := exists_of_toOption_map hcomputed
  obtain ⟨type, htype, hnames⟩ := Option.map_eq_some_iff.mp hview
  exact ⟨start, type, hstart, htype, (Prod.mk.inj hnames).1, (Prod.mk.inj hnames).2⟩

theorem not_isApiName_serial : ¬ IsApiName "Serial-no" := by decide +kernel

/-- The parameter derives from a property of the interface, and the section goes by the id that the
author of the action gives. -/
theorem names_performAll_device :
    ∃ start action before, Session.start { qualifier := "com.example" } = .ok start ∧
      start.LatestAction ⟨"com.example.create-interface-object-device"⟩
        (Fixture.device.map .define) action ∧
      (∃ property, action.Derives (start.performAll before).registry property ∧
        property.id.localName = "Serial-no") ∧
      action.frame.sections.map (·.id) = ["Main section"] := by
  obtain ⟨start, type, hstart, htype, hids, hsections⟩ := exists_device
  have hlocal : ∀ entity, Operation.addImported entity ∈ Fixture.device.map Operation.define →
      entity.WellNamed := by
    simp
  obtain ⟨action, before, compiled, hlatest, -, -, -, hmisnamed, hdrafted, -⟩ :=
    (names_performAll hstart rfl hlocal).2 _ type htype
  have hserial := (hmisnamed "Serial-no" not_isApiName_serial).mp (by rw [hids]; simp)
  exact ⟨start, action, before, hstart, hlatest, hserial, hdrafted.symm.trans hsections⟩

/-- Not all names of a strict session keep the rules, even if nothing is imported. -/
theorem not_forall_names_checked :
    ¬ ∀ (options : SessionOptions) (start : Session) (definitions : List Definition),
      Session.start options = .ok start → options.strict →
      (start.performAll (definitions.map .define)).registry.defined.Every fun entity ↦
        entity.id.WellFormed ∧
        match entity with
        | .objectType object => ∀ name ∈ object.propertyNames, IsApiName name
        | .actionType type =>
          (∀ name ∈ type.parameters.map (·.id), IsApiName name) ∧
            ∀ name ∈ type.sections.map (·.id), IsApiName name
        | _ => True := by
  intro hall
  obtain ⟨start, type, hstart, htype, hids, -⟩ := exists_device
  have hfound : (start.performAll (Fixture.device.map .define)).registry.defined.find? .actionType
      ⟨"com.example.create-interface-object-device"⟩ = some (.actionType type) := by
    rw [EntityStore.find?, htype, Option.map_some]
  obtain ⟨-, hparameters, -⟩ := hall _ start Fixture.device hstart rfl _ _ _ hfound
  refine not_isApiName_serial (hparameters "Serial-no" ?_)
  rw [hids]
  simp

end Session

end Ontology
