import Ontology.Proofs.Action.Drafts
import Ontology.Proofs.Action.GeneratedParameters

/-!
What becomes of the types that authors give to parameters. A type that is given settles that of an
added parameter, and it takes precedence over the type that goes with a property. But the structural
parameters of a generated action have types of their own, and so have all parameters of an action
that is spelled out (`ActionDefinition.presets`). A type that is given for one of these is not
looked at, so it is kept exactly when it repeats the preset one (`compile_givenTypes`), and it may
differ without an error (`not_forall_givenTypes_kept`).
-/

set_option autoImplicit false
set_option relaxedAutoImplicit false

namespace Ontology

open Outcome

variable {registry : Registry}

/-- The types that parameters have whatever is given for them: in a generated action those of the
structural parameters, and in an action that is spelled out those of all parameters. -/
def ActionDefinition.presets (registry : Registry) :
    ActionDefinition → List (String × ParameterType)
  | .generated definition =>
    match ActionTarget.resolve registry definition.target with
    | .ok target =>
      (structuralParameters definition.kind target).map fun sketch ↦ (sketch.id, sketch.type)
    | .error _ => []
  | .manual definition => definition.parameters.map fun parameter ↦ (parameter.id, parameter.type)

/-! ### Generated parameters -/

namespace CrudDefinition

variable {definition : CrudDefinition} {target : ActionTarget} {sketches : List ParameterSketch}
  {sketch : ParameterSketch} {entry : String × ParameterDraft} {given : ParameterType}

/-- Names aside, the structural parameters come out of a synthesis as they went in. -/
theorem Synthesizes.mem_of_structural (h : definition.Synthesizes target sketches)
    (hsketch : sketch ∈ structuralParameters definition.kind target) :
    ∃ named ∈ sketches, named.id = sketch.id ∧ named.type = sketch.type := by
  obtain ⟨structural, ofProperties, added, rfl, hstructural, -, -⟩ := h
  obtain ⟨named, hnamed, hnames⟩ := exists_of_mem_forall₂ hstructural.flip hsketch
  refine ⟨named, ?_, hnames.id, hnames.type⟩
  exact List.mem_append_left _ (List.mem_append_left _ hnamed)

/-- A parameter is a structural one, or that of a property, or one that an entry adds. -/
theorem Synthesizes.cases_of_mem (h : definition.Synthesizes target sketches)
    (hsketch : sketch ∈ sketches) :
    (∃ structural ∈ structuralParameters definition.kind target,
        definition.Names structural sketch) ∨
      (∃ property ∈ definition.keptProperties target, definition.Fills property sketch) ∨
      ∃ entry ∈ definition.configuration, definition.Adds entry sketch := by
  obtain ⟨structural, ofProperties, added, rfl, hstructural, hproperties, hadded⟩ := h
  rcases List.mem_append.mp hsketch with hexisting | hnew
  · rcases List.mem_append.mp hexisting with hfirst | hproperty
    · exact .inl (exists_of_mem_forall₂ hstructural hfirst)
    · exact .inr (.inl (exists_of_mem_forall₂ hproperties hproperty))
  · obtain ⟨entry, hentry, hadds⟩ := exists_of_mem_forall₂ hadded hnew
    exact .inr (.inr ⟨entry, (List.mem_filter.mp hentry).1, hadds⟩)

theorem configuration?_of_mem (hdistinct : (definition.configuration.map (·.1)).Nodup)
    (hentry : entry ∈ definition.configuration) :
    definition.configuration? entry.1 = some entry.2 := by
  rw [configuration?, Lookup.find?_eq_some hdistinct hentry, Option.map_some]

/-- The parameter of a property has the type that is given under its id. -/
theorem Fills.type_of_given {property : TargetProperty}
    (hdistinct : (definition.configuration.map (·.1)).Nodup)
    (h : definition.Fills property sketch) (hentry : entry ∈ definition.configuration)
    (hid : entry.1 = sketch.id) (hgiven : entry.2.type = some given) : sketch.type = given := by
  obtain ⟨type, htype, hnames⟩ := h
  have hkey : entry.1 = property.parameterId := hid.trans hnames.id
  rw [typeOf?, ← hkey, configuration?_of_mem hdistinct hentry, Option.bind_some, hgiven,
    Option.some_or, Option.some.injEq] at htype
  exact hnames.type.trans htype.symm

/-- An added parameter has the type that is given under its id. -/
theorem Adds.type_of_given {adding : String × ParameterDraft}
    (hdistinct : (definition.configuration.map (·.1)).Nodup)
    (hadding : adding ∈ definition.configuration) (h : definition.Adds adding sketch)
    (hentry : entry ∈ definition.configuration) (hid : entry.1 = sketch.id)
    (hgiven : entry.2.type = some given) : sketch.type = given := by
  obtain ⟨type, htype, hnames⟩ := h
  have hsame : entry = adding :=
    List.inj_on_of_nodup_map hdistinct hentry hadding (hid.trans hnames.id)
  rw [← hsame, hgiven, Option.some.injEq] at htype
  exact hnames.type.trans htype.symm

end CrudDefinition

/-! ### Parameters of either kind of action -/

namespace ActionDefinition

variable {definition : ActionDefinition} {elaboration : Elaboration} {compiled : CompiledAction}

/-- Every preset type is that of a parameter. -/
theorem presets_subset_of_elaborate (h : definition.elaborate registry = .ok elaboration) :
    definition.presets registry ⊆ elaboration.scope.declarations := by
  cases definition with
  | generated definition =>
    obtain ⟨target, htarget, hsketches, -⟩ := CrudDefinition.elaborate_eq_ok_iff.mp h
    have hsynthesizes := (CrudDefinition.synthesize_eq_ok_iff_synthesizes.mp hsketches).2.2
    intro preset hpreset
    rw [presets, htarget] at hpreset
    obtain ⟨sketch, hsketch, rfl⟩ := List.mem_map.mp hpreset
    obtain ⟨named, hnamed, hid, htype⟩ := hsynthesizes.mem_of_structural hsketch
    rw [← hid, ← htype]
    exact List.mem_map_of_mem hnamed
  | manual definition =>
    rw [Elaboration.scope, ParameterSketch.scope,
      (ManualDefinition.elaborate_eq_ok_iff.mp h).1, List.map_map]
    exact List.Subset.refl _

/-- A parameter has a preset type, or any that is given for it. -/
theorem type_of_elaborate (h : definition.elaborate registry = .ok elaboration)
    {declared : String × ParameterType} (hdeclared : declared ∈ elaboration.scope.declarations) :
    declared ∈ definition.presets registry ∨
      ∀ entry ∈ definition.drafts, entry.1 = declared.1 →
        ∀ given, entry.2.type = some given → declared.2 = given := by
  cases definition with
  | generated definition =>
    obtain ⟨target, htarget, hsketches, -⟩ := CrudDefinition.elaborate_eq_ok_iff.mp h
    obtain ⟨-, hdistinct, hsynthesizes⟩ :=
      CrudDefinition.synthesize_eq_ok_iff_synthesizes.mp hsketches
    obtain ⟨sketch, hsketch, rfl⟩ := List.mem_map.mp hdeclared
    rcases hsynthesizes.cases_of_mem hsketch with
      ⟨structural, hstructural, hnames⟩ | ⟨property, -, hfills⟩ | ⟨adding, hadding, hadds⟩
    · left
      rw [presets, htarget, hnames.id, hnames.type]
      exact List.mem_map_of_mem hstructural
    · right
      intro entry hentry hid given hgiven
      exact hfills.type_of_given hdistinct hentry hid hgiven
    · right
      intro entry hentry hid given hgiven
      exact CrudDefinition.Adds.type_of_given hdistinct hadding hadds hentry hid hgiven
  | manual definition =>
    left
    rw [Elaboration.scope, ParameterSketch.scope,
      (ManualDefinition.elaborate_eq_ok_iff.mp h).1, List.map_map] at hdeclared
    exact hdeclared

/-- Every entry for a parameter of a compiled action belongs to a parameter that it has. A type that
the entry gives is that of the parameter exactly when no other type is preset for it. -/
theorem compile_givenTypes (h : definition.compile registry = .ok compiled) :
    ∀ entry ∈ definition.drafts,
      (∃ parameter ∈ compiled.actionType.parameters, parameter.id = entry.1) ∧
      ∀ given, entry.2.type = some given →
        ((∀ parameter ∈ compiled.actionType.parameters, parameter.id = entry.1 →
            parameter.type = given) ↔
          ∀ preset ∈ definition.presets registry, preset.1 = entry.1 → preset.2 = given) := by
  intro entry hentry
  refine ⟨(draft_of_mem_drafts h hentry).2, fun given hgiven ↦ ?_⟩
  obtain ⟨elaboration, helaborate, -, hscope⟩ := exists_scope_of_compile h
  have hdeclarations : elaboration.scope.declarations =
      compiled.actionType.parameters.map fun parameter ↦ (parameter.id, parameter.type) := by
    rw [← hscope, ActionType.parameterScope]
  constructor
  · intro hkept preset hpreset hid
    have hmem := presets_subset_of_elaborate helaborate hpreset
    rw [hdeclarations] at hmem
    obtain ⟨parameter, hparameter, rfl⟩ := List.mem_map.mp hmem
    exact hkept parameter hparameter hid
  · intro hpresets parameter hparameter hid
    have hmem : (parameter.id, parameter.type) ∈ elaboration.scope.declarations := by
      rw [hdeclarations]
      exact List.mem_map_of_mem hparameter
    rcases type_of_elaborate helaborate hmem with hpreset | hdrafts
    · exact hpresets _ hpreset hid
    · exact hdrafts entry hentry hid.symm given hgiven

end ActionDefinition

/-- An action that creates a `foo` with a note. The note is declared as a text, and a type is given
for it once more. -/
def Fixture.noteFoo (given : ParameterType) : ManualDefinition where
  id := ⟨"com.example.note-foo"⟩
  parameters := [{ id := "note", type := .string, draft := { type := some given } }]
  rules := [.addObject ⟨"com.example.foo"⟩ [⟨"optionalProp", .parameter "note"⟩]]

/-- An action that edits a ticket and gives a type to one of the parameters. -/
def Fixture.retypeTicket (id : String) (given : ParameterType) : CrudDefinition where
  id := ⟨"com.example.retype-ticket"⟩
  kind := .modify
  target := .object ⟨"com.example.ticket"⟩
  configuration := [(id, { type := some given })]

namespace ActionDefinition

/-- Of the types that are given here, only the one for the priority of a ticket is kept. -/
theorem compile_retypeTicket :
    ((generated (Fixture.retypeTicket "priority" .double)).compile
      (Fixture.registry Fixture.ticket)).toOption.map (fun _ ↦ ()) = some () ∧
    (∀ preset ∈ (generated (Fixture.retypeTicket "priority" .double)).presets
      (Fixture.registry Fixture.ticket), preset.1 = "priority" → preset.2 = .double) ∧
    ((Fixture.retypeTicket "objectToModifyParameter" .string).compile
      (Fixture.registry Fixture.ticket)).toOption.map (fun compiled ↦
        compiled.actionType.parameters.any fun parameter ↦
          parameter.id = "objectToModifyParameter" ∧ parameter.type ≠ .string) = some true ∧
    ((Fixture.noteFoo .integer).compile
      (Fixture.registry Fixture.foo)).toOption.map (fun compiled ↦
        compiled.actionType.parameters.any fun parameter ↦
          parameter.id = "note" ∧ parameter.type ≠ .integer) = some true := by
  decide +kernel

/-- The priority of a ticket can be asked for as a double, although it is an integer. -/
theorem compile_givenTypes_retypeTicket :
    ∃ compiled,
      (generated (Fixture.retypeTicket "priority" .double)).compile
          (Fixture.registry Fixture.ticket) = .ok compiled ∧
        (∃ parameter ∈ compiled.actionType.parameters, parameter.id = "priority") ∧
        ∀ parameter ∈ compiled.actionType.parameters, parameter.id = "priority" →
          parameter.type = .double := by
  obtain ⟨hcomputed, hpresets, -⟩ := compile_retypeTicket
  obtain ⟨compiled, hcompile, -⟩ := exists_of_toOption_map hcomputed
  obtain ⟨hexists, htypes⟩ := compile_givenTypes hcompile _ List.mem_cons_self
  exact ⟨compiled, hcompile, hexists, (htypes .double rfl).mpr hpresets⟩

/-- The ticket that an action edits stays an object reference although it is given as a text, and
a note stays a text although it is given as an integer. -/
theorem not_forall_givenTypes_kept :
    (¬ ∀ (registry : Registry) (definition : CrudDefinition) (compiled : CompiledAction),
      definition.compile registry = .ok compiled → ∀ entry ∈ definition.configuration,
        ∀ given, entry.2.type = some given → ∀ parameter ∈ compiled.actionType.parameters,
          parameter.id = entry.1 → parameter.type = given) ∧
    ¬ ∀ (registry : Registry) (definition : ManualDefinition) (compiled : CompiledAction),
      definition.compile registry = .ok compiled → ∀ declared ∈ definition.parameters,
        ∀ given, declared.draft.type = some given → ∀ parameter ∈ compiled.actionType.parameters,
          parameter.id = declared.id → parameter.type = given := by
  obtain ⟨-, -, hticket, hnote⟩ := compile_retypeTicket
  constructor
  · intro hall
    obtain ⟨compiled, hcompile, hany⟩ := exists_of_toOption_map hticket
    obtain ⟨parameter, hparameter, hview⟩ := List.any_eq_true.mp hany
    obtain ⟨hid, htype⟩ := of_decide_eq_true hview
    exact htype (hall _ _ _ hcompile _ List.mem_cons_self .string rfl parameter hparameter hid)
  · intro hall
    obtain ⟨compiled, hcompile, hany⟩ := exists_of_toOption_map hnote
    obtain ⟨parameter, hparameter, hview⟩ := List.any_eq_true.mp hany
    obtain ⟨hid, htype⟩ := of_decide_eq_true hview
    exact htype (hall _ _ _ hcompile _ List.mem_cons_self .integer rfl parameter hparameter hid)

end ActionDefinition

end Ontology
