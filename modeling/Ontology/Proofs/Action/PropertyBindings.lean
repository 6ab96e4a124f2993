import Ontology.Proofs.Action.GeneratedParameters
import Ontology.Proofs.Action.ParameterIds
import Ontology.Proofs.Action.StaticValues

/-!
Which properties a generated action writes. The parameters and the rule are worked out apart from
each other: there is a parameter for a property that is neither excluded nor fixed, while the rule
binds a property to whatever parameter has its id. `bindings_of_compile` reads the bindings of a
compiled action off the ids of its parameters.

Where the keys of the target are distinct and no parameter of a property has the id of a structural
one, the two sides agree: the properties are bound in the order of their declaration, each to its
own parameter or to the value that it is fixed to, and a primary key stays as it is
(`compile_bindsProperties`). A property that is excluded is bound all the same when it is called
like a structural parameter (`compile_excluded_iff`).
-/

set_option autoImplicit false
set_option relaxedAutoImplicit false

namespace Ontology

open Outcome

namespace CrudDefinition

variable {registry : Registry} {scope : Scope} {definition : CrudDefinition}
  {target : ActionTarget} {sketches : List ParameterSketch} {compiled : CompiledAction}
  {ids : List String} {property : TargetProperty} {key : String} {value : ValueSource}

/-! ### Bindings -/

/-- The value of a property in an action with parameters of some ids: the one that it is fixed to,
or else the parameter of its id, if there is one. -/
def boundValue? (definition : CrudDefinition) (ids : List String) (property : TargetProperty) :
    Option ValueSource :=
  (definition.fixedValue? property.key).or
    (if property.parameterId ∈ ids then some (.parameter property.parameterId) else none)

/-- The bindings of an action with parameters of some ids, in the order of the properties. -/
def boundProperties (definition : CrudDefinition) (target : ActionTarget) (ids : List String) :
    List (String × ValueSource) :=
  (target.properties.filter fun property ↦ !definition.isKeptKey target property.key).filterMap
    fun property ↦ (definition.boundValue? ids property).map (property.key, ·)

/-- The value that a property is fixed to comes from the first mapping of its key. -/
theorem fixedValue?_eq_some_iff :
    definition.fixedValue? key = some value ↔
      ∃ before after, definition.fixedValues = before ++ (key, value) :: after ∧
        key ∉ before.map (·.1) := by
  simp only [fixedValue?, Option.map_eq_some_iff, List.find?_eq_some_iff_append,
    decide_eq_true_eq, Bool.not_eq_true', decide_eq_false_iff_not, List.mem_map, not_exists,
    not_and]
  constructor
  · rintro ⟨⟨_, _⟩, ⟨rfl, before, after, hsplit, hbefore⟩, rfl⟩
    exact ⟨before, after, hsplit, hbefore⟩
  · rintro ⟨before, after, hsplit, hbefore⟩
    exact ⟨(key, value), ⟨rfl, before, after, hsplit, hbefore⟩, rfl⟩

theorem boundValue?_eq_some_iff :
    definition.boundValue? ids property = some value ↔
      definition.fixedValue? property.key = some value ∨
        property.key ∉ definition.fixedValues.map (·.1) ∧ property.parameterId ∈ ids ∧
          value = .parameter property.parameterId := by
  simp only [← fixedValue?_eq_none_iff, boundValue?, Option.or_eq_some_iff,
    Option.ite_none_right_eq_some, Option.some.injEq]
  exact or_congr_right (and_congr_right' (and_congr_right' eq_comm))

theorem mem_boundProperties_iff :
    (key, value) ∈ definition.boundProperties target ids ↔
      ∃ property ∈ target.properties, property.key = key ∧ ¬ definition.StaysAsIs target key ∧
        definition.boundValue? ids property = some value := by
  simp only [boundProperties, List.mem_filterMap, List.mem_filter, Option.map_eq_some_iff,
    Prod.mk.injEq, not_isKeptKey_iff]
  constructor
  · rintro ⟨property, ⟨hproperty, hstays⟩, _, hvalue, rfl, rfl⟩
    exact ⟨property, hproperty, rfl, hstays, hvalue⟩
  · rintro ⟨property, hproperty, rfl, hstays, hvalue⟩
    exact ⟨property, ⟨hproperty, hstays⟩, value, hvalue, rfl, rfl⟩

/-- Where the keys are distinct, what is bound under the key of a property is its own value. -/
theorem mem_boundProperties_iff_of_keys (hkeys : (target.properties.map (·.key)).Nodup)
    (hproperty : property ∈ target.properties) :
    (property.key, value) ∈ definition.boundProperties target ids ↔
      ¬ definition.StaysAsIs target property.key ∧
        definition.boundValue? ids property = some value := by
  rw [mem_boundProperties_iff]
  constructor
  · rintro ⟨other, hother, hkey, hstays, hvalue⟩
    cases List.inj_on_of_nodup_map hkeys hother hproperty hkey
    exact ⟨hstays, hvalue⟩
  · rintro ⟨hstays, hvalue⟩
    exact ⟨property, hproperty, rfl, hstays, hvalue⟩

/-- What is made of some entries of a list under their keys has these keys in the same order. -/
theorem sublist_keys_filterMap {f : TargetProperty → Option ValueSource}
    (properties : List TargetProperty) :
    ((properties.filterMap fun property ↦ (f property).map (property.key, ·)).map (·.1)).Sublist
      (properties.map (·.key)) := by
  induction properties with
  | nil => exact .slnil
  | cons property rest ih =>
    cases hvalue : f property with
    | none => simpa [hvalue] using ih.cons property.key
    | some value => simpa [hvalue] using ih.cons_cons property.key

theorem sublist_boundProperties (definition : CrudDefinition) (target : ActionTarget)
    (ids : List String) :
    ((definition.boundProperties target ids).map (·.1)).Sublist (target.properties.map (·.key)) :=
  (sublist_keys_filterMap _).trans (List.filter_sublist.map _)

/-- The binding of a property is what the ids of the parameters in scope call for. -/
theorem eq_of_binding? (hids : ∀ id, scope.declares id ↔ id ∈ ids)
    {entry : Option (String × ValueSource)}
    (h : definition.binding? registry scope property = .ok entry) :
    entry = (definition.boundValue? ids property).map (property.key, ·) := by
  unfold binding? at h
  unfold boundValue?
  cases hfixed : definition.fixedValue? property.key with
  | some fixed =>
    simp only [hfixed, bind_eq_ok_iff, pure_eq_ok_iff] at h
    obtain ⟨_, -, rfl⟩ := h
    rfl
  | none =>
    simp only [hfixed, hids] at h
    split_ifs at h ⊢ <;> cases h <;> rfl

theorem eq_boundProperties_of_bindings {bound : List (String × ValueSource)}
    (hids : ∀ id, scope.declares id ↔ id ∈ ids)
    (h : definition.bindings registry scope target = .ok bound) :
    bound = definition.boundProperties target ids := by
  simp only [bindings, bind_eq_ok_iff, pure_eq_ok_iff] at h
  obtain ⟨found, hfound, rfl⟩ := h
  have hentries : found.map (fun entry ↦ entry) = _ :=
    map_eq_of_mapM hfound fun _ _ ↦ eq_of_binding? hids
  rw [List.map_id'] at hentries
  rw [hentries, List.filterMap_map]
  rfl

/-! ### Compiled actions -/

/-- A compiled action has the parameters that have been worked out, under the same ids and types,
and the one rule that is emitted for them. -/
theorem exists_emits_of_compile
    (htarget : ActionTarget.resolve registry definition.target = .ok target)
    (h : definition.compile registry = .ok compiled) :
    ∃ sketches rule, definition.synthesize target = .ok sketches ∧
      compiled.actionType.parameters.map (fun parameter ↦ (parameter.id, parameter.type)) =
        sketches.map (fun sketch ↦ (sketch.id, sketch.type)) ∧
      compiled.actionType.logic = [rule] ∧
      definition.Emits registry (ParameterSketch.scope sketches) target rule := by
  have hcompile : (ActionDefinition.generated definition).compile registry = .ok compiled := h
  obtain ⟨elaboration, helaborate, hlogic, hparameters⟩ :=
    ActionDefinition.exists_elaboration_of_compile hcompile
  obtain ⟨other, hother, hsketches, hbuild, ⟨rule, hrule, hrules⟩, -⟩ :=
    elaborate_eq_ok_iff.mp helaborate
  cases htarget.symm.trans hother
  refine ⟨elaboration.sketches, rule, hsketches, ?_, hlogic.trans hrules, emits_of_rule hrule⟩
  rw [hparameters]
  refine map_eq_of_mapM hbuild fun sketch parameter hparameter ↦ ?_
  obtain ⟨validation, -, rfl⟩ := ParameterSketch.build_eq_ok_iff.mp hparameter
  rfl

/-- The parameters of a compiled action go by the ids that have been worked out. -/
theorem exists_synthesize_of_compile
    (htarget : ActionTarget.resolve registry definition.target = .ok target)
    (h : definition.compile registry = .ok compiled) :
    ∃ sketches, definition.synthesize target = .ok sketches ∧
      compiled.actionType.parameters.map (·.id) = sketches.map (·.id) := by
  obtain ⟨sketches, -, hsketches, hparameters, -⟩ := exists_emits_of_compile htarget h
  have hids := congrArg (List.map Prod.fst) hparameters
  rw [List.map_map, List.map_map] at hids
  exact ⟨sketches, hsketches, hids⟩

/-- The rule of a compiled action binds what the ids of its parameters call for, unless it
deletes. -/
theorem bindings_of_compile
    (htarget : ActionTarget.resolve registry definition.target = .ok target)
    (h : definition.compile registry = .ok compiled) :
    ∃ rule, compiled.actionType.logic = [rule] ∧
      rule.bindings = if definition.kind = .delete then []
        else definition.boundProperties target (compiled.actionType.parameters.map (·.id)) := by
  obtain ⟨sketches, rule, -, hparameters, hlogic, hemits⟩ := exists_emits_of_compile htarget h
  refine ⟨rule, hlogic, ?_⟩
  rcases hemits.bindings_eq with ⟨hkind, hnone⟩ | ⟨hkind, hbindings⟩
  · rw [if_pos hkind, hnone]
  · rw [if_neg hkind]
    refine eq_boundProperties_of_bindings (fun id ↦ ?_) hbindings
    rw [Scope.declares_iff, ParameterSketch.scope, ← hparameters, List.map_map]
    rfl

/-- The rule of an action and the properties of its target are in step. -/
structure BindsProperties (definition : CrudDefinition) (target : ActionTarget)
    (parameters : List Parameter) (rule : Rule) : Prop where
  /-- The properties that are bound stand in the order of their declaration, each once. -/
  ordered : (rule.bindings.map (·.1)).Sublist (target.properties.map (·.key))
  once : (rule.bindings.map (·.1)).Nodup
  distinct : (parameters.map (·.id)).Nodup
  /-- There is a parameter for every property that is kept, and the property is bound to it. -/
  filled : ∀ property ∈ target.properties, definition.Keeps target property →
    ∃ parameter ∈ parameters, parameter.id = property.parameterId ∧
      definition.typeOf? property = some parameter.type ∧
      (property.key, .parameter parameter.id) ∈ rule.bindings
  /-- What is bound to the parameter of a property is this property, or another one that the author
  fixes to it. -/
  own : ∀ property ∈ target.properties, ∀ key,
    (key, .parameter property.parameterId) ∈ rule.bindings →
      key = property.key ∨ (key, .parameter property.parameterId) ∈ definition.fixedValues
  /-- A property that is fixed is bound to the value that the first mapping of its key gives. -/
  fixed : ∀ before key value after, definition.fixedValues = before ++ (key, value) :: after →
    key ∉ before.map (·.1) → (key, value) ∈ rule.bindings
  primaryKey : ∀ key, definition.StaysAsIs target key → key ∉ rule.bindings.map (·.1)

/-- For a property that is kept there is a parameter, of the type that goes with the property. -/
theorem exists_parameter_of_keeps
    (htarget : ActionTarget.resolve registry definition.target = .ok target)
    (h : definition.compile registry = .ok compiled) (hproperty : property ∈ target.properties)
    (hkept : definition.Keeps target property) :
    ∃ parameter ∈ compiled.actionType.parameters, parameter.id = property.parameterId ∧
      definition.typeOf? property = some parameter.type := by
  obtain ⟨sketches, -, hsketches, hparameters, -⟩ := exists_emits_of_compile htarget h
  obtain ⟨-, -, structural, ofProperties, added, rfl, -, hfills, -⟩ :=
    synthesize_eq_ok_iff_synthesizes.mp hsketches
  have hmem : property ∈ definition.keptProperties target :=
    mem_keptProperties_iff.mpr ⟨hproperty, hkept⟩
  obtain ⟨sketch, hsketch, type, htype, hnames⟩ := exists_of_mem_forall₂ hfills.flip hmem
  have hdrawn : sketch ∈ structural ++ ofProperties ++ added :=
    List.mem_append_left _ (List.mem_append_right _ hsketch)
  have hbuilt : (sketch.id, sketch.type) ∈
      compiled.actionType.parameters.map fun parameter ↦ (parameter.id, parameter.type) := by
    rw [hparameters]
    exact List.mem_map_of_mem hdrawn
  obtain ⟨parameter, hparameter, hsame⟩ := List.mem_map.mp hbuilt
  obtain ⟨hid, hsame⟩ := Prod.mk.inj hsame
  exact ⟨parameter, hparameter, hid.trans hnames.id,
    htype.trans (congrArg some (hsame.trans hnames.type).symm)⟩

/-- So the property is bound to its parameter. -/
theorem mem_boundProperties_of_keeps (hproperty : property ∈ target.properties)
    (hkept : definition.Keeps target property) (hid : property.parameterId ∈ ids) :
    (property.key, .parameter property.parameterId) ∈ definition.boundProperties target ids :=
  mem_boundProperties_iff.mpr ⟨property, hproperty, rfl, hkept.primaryKey,
    boundValue?_eq_some_iff.mpr (.inr ⟨hkept.fixed, hid, rfl⟩)⟩

/-- A key that an action fixes is that of a property that the rule binds, to the first value. -/
theorem mem_boundProperties_of_fixed (h : definition.synthesize target = .ok sketches)
    {before after : List (String × ValueSource)}
    (hfixed : definition.fixedValues = before ++ (key, value) :: after)
    (hfirst : key ∉ before.map (·.1)) : (key, value) ∈ definition.boundProperties target ids := by
  have hkey : key ∈ definition.excluded ++ definition.fixedValues.map (·.1) := by
    simp [hfixed]
  obtain ⟨hmem, hstays⟩ := (exists_synthesize_iff.mp ⟨sketches, h⟩).keys key hkey
  obtain ⟨property, hproperty, rfl⟩ := List.mem_map.mp hmem
  have hvalue : definition.fixedValue? property.key = some value :=
    fixedValue?_eq_some_iff.mpr ⟨before, after, hfixed, hfirst⟩
  exact mem_boundProperties_iff.mpr
    ⟨property, hproperty, rfl, hstays, boundValue?_eq_some_iff.mpr (.inl hvalue)⟩

/-- Only its own property is bound to a parameter, unless the author fixes others to it. -/
theorem eq_key_of_mem_boundProperties (hdistinct : (target.properties.map (·.parameterId)).Nodup)
    (hproperty : property ∈ target.properties)
    (hmem : (key, .parameter property.parameterId) ∈ definition.boundProperties target ids) :
    key = property.key ∨ (key, .parameter property.parameterId) ∈ definition.fixedValues := by
  obtain ⟨other, hother, rfl, -, hvalue⟩ := mem_boundProperties_iff.mp hmem
  rcases boundValue?_eq_some_iff.mp hvalue with hfixed | ⟨-, -, hsame⟩
  · obtain ⟨before, after, hsplit, -⟩ := fixedValue?_eq_some_iff.mp hfixed
    exact .inr (hsplit ▸ List.mem_append_right _ List.mem_cons_self)
  · have hids : property.parameterId = other.parameterId := ValueSource.parameter.inj hsame
    exact .inl (congrArg TargetProperty.key
      (List.inj_on_of_nodup_map hdistinct hother hproperty hids.symm))

/-- In an action that compiles, every parameter of a property goes to this property and to no other,
if the properties of the target have keys of their own and no property that is kept is called like a
structural parameter. -/
theorem compile_bindsProperties
    (htarget : ActionTarget.resolve registry definition.target = .ok target)
    (h : definition.compile registry = .ok compiled) (hkind : definition.kind ≠ .delete)
    (hkeys : (target.properties.map (·.key)).Nodup)
    (hfree : ∀ property ∈ target.properties, definition.Keeps target property →
      property.parameterId ∉ (structuralParameters definition.kind target).map (·.id)) :
    ∃ rule, compiled.actionType.logic = [rule] ∧
      definition.BindsProperties target compiled.actionType.parameters rule := by
  obtain ⟨sketches, hsketches, hparameters⟩ := exists_synthesize_of_compile htarget h
  obtain ⟨rule, hlogic, hbindings⟩ := bindings_of_compile htarget h
  rw [if_neg hkind] at hbindings
  have hids := ActionTarget.parameterIds_nodup_of_keys hkeys htarget
  refine ⟨rule, hlogic, ?_⟩
  constructor
  case ordered =>
    rw [hbindings]
    exact sublist_boundProperties ..
  case once =>
    rw [hbindings]
    exact hkeys.sublist (sublist_boundProperties ..)
  case distinct =>
    rw [hparameters, synthesize_ids_nodup_iff hids hsketches]
    exact fun property hproperty htakes ↦
      hfree property hproperty (takesParameter_iff.mp htakes)
  case filled =>
    intro property hproperty hkept
    obtain ⟨parameter, hparameter, hid, htype⟩ :=
      exists_parameter_of_keeps htarget h hproperty hkept
    refine ⟨parameter, hparameter, hid, htype, ?_⟩
    rw [hbindings, hid]
    exact mem_boundProperties_of_keeps hproperty hkept
      (hid ▸ List.mem_map_of_mem hparameter)
  case own =>
    intro property hproperty key hmem
    rw [hbindings] at hmem
    exact eq_key_of_mem_boundProperties hids hproperty hmem
  case fixed =>
    intro before key value after hfixed hfirst
    rw [hbindings]
    exact mem_boundProperties_of_fixed hsketches hfixed hfirst
  case primaryKey =>
    intro key hstays hmem
    rw [hbindings] at hmem
    obtain ⟨⟨_, value⟩, hbound, rfl⟩ := List.mem_map.mp hmem
    obtain ⟨-, -, -, hwritten, -⟩ := mem_boundProperties_iff.mp hbound
    exact hwritten hstays

end CrudDefinition

/-- An action that edits a ticket once its id has been typed in to confirm it. The id is not
written, and of the two mappings for the urgency the first one counts. -/
def Fixture.confirmTicket : CrudDefinition where
  id := ⟨"com.example.confirm-ticket"⟩
  kind := .modify
  target := .object ⟨"com.example.ticket"⟩
  excluded := ["dueDate"]
  fixedValues := [("urgent", .literal (.boolean true)), ("urgent", .literal (.boolean false))]
  configuration := [("ticketId", { type := some .string })]

namespace CrudDefinition

variable {registry : Registry} {scope : Scope} {definition : CrudDefinition}
  {target : ActionTarget} {sketches : List ParameterSketch} {compiled : CompiledAction}
  {ids : List String} {property : TargetProperty} {key : String} {value : ValueSource}

/-- The title of a ticket is bound to its parameter, and the urgency to the first of its two values.
The id is not bound, though there is a parameter of this name. -/
theorem compile_bindsProperties_confirmTicket :
    ∃ target compiled,
      ActionTarget.resolve (Fixture.registry Fixture.ticket) Fixture.confirmTicket.target =
          .ok target ∧
        Fixture.confirmTicket.compile (Fixture.registry Fixture.ticket) = .ok compiled ∧
        "ticketId" ∈ compiled.actionType.parameters.map (·.id) ∧
        ∃ rule, compiled.actionType.logic = [rule] ∧
          ("title", .parameter "title") ∈ rule.bindings ∧
          ("urgent", .literal (.boolean true)) ∈ rule.bindings ∧
          "ticketId" ∉ rule.bindings.map (·.1) := by
  obtain ⟨hresolved, hcompiled⟩ :
      (ActionTarget.resolve (Fixture.registry Fixture.ticket)
        Fixture.confirmTicket.target).toOption.map (fun target ↦
          decide ((target.properties.map (·.key)).Nodup ∧
            (∀ property ∈ target.properties, Fixture.confirmTicket.Keeps target property →
              property.parameterId ∉ (structuralParameters .modify target).map (·.id)) ∧
            Fixture.confirmTicket.isKeptKey target "ticketId" ∧
            ∃ property ∈ target.properties, Fixture.confirmTicket.Keeps target property ∧
              property.parameterId = "title" ∧ property.key = "title")) = some true ∧
      (Fixture.confirmTicket.compile (Fixture.registry Fixture.ticket)).toOption.map
        (fun compiled ↦ decide ("ticketId" ∈ compiled.actionType.parameters.map (·.id))) =
        some true := by
    decide +kernel
  obtain ⟨target, htarget, hview⟩ := exists_of_toOption_map hresolved
  obtain ⟨compiled, hcompile, hid⟩ := exists_of_toOption_map hcompiled
  obtain ⟨hkeys, hfree, hstays, title, hmem, hkept, hname, hkey⟩ := of_decide_eq_true hview
  obtain ⟨rule, hlogic, hbinds⟩ :=
    compile_bindsProperties htarget hcompile (by decide) hkeys hfree
  obtain ⟨parameter, -, hparameter, -, hbound⟩ := hbinds.filled title hmem hkept
  rw [hparameter, hname, hkey] at hbound
  exact ⟨target, compiled, htarget, hcompile, of_decide_eq_true hid, rule, hlogic, hbound,
    hbinds.fixed [] _ _ _ rfl List.not_mem_nil,
    hbinds.primaryKey "ticketId" (isKeptKey_iff.mp hstays)⟩

/-! ### Excluded properties -/

/-- A property that is neither kept nor called like an entry with a type shares its id with a
parameter only if this is a structural one. -/
theorem mem_ids_iff_of_excluded (hids : (target.properties.map (·.parameterId)).Nodup)
    (h : definition.synthesize target = .ok sketches) (hproperty : property ∈ target.properties)
    (hkept : ¬ definition.Keeps target property)
    (huntyped : ∀ entry ∈ definition.configuration,
      entry.1 = property.parameterId → entry.2.type = none) :
    property.parameterId ∈ sketches.map (·.id) ↔
      property.parameterId ∈ (structuralParameters definition.kind target).map (·.id) := by
  have hother : property.parameterId ∉ (definition.keptProperties target).map (·.parameterId) := by
    intro hmem
    obtain ⟨other, hother, hsame⟩ := List.mem_map.mp hmem
    obtain ⟨hother, htakes⟩ := mem_keptProperties_iff.mp hother
    cases List.inj_on_of_nodup_map hids hother hproperty hsame
    exact hkept htakes
  rw [mem_ids_of_synthesize h, parameterProperties_eq]
  refine ⟨?_, .inl⟩
  rintro (hstructural | hmem | hmem)
  · exact hstructural
  · exact absurd hmem hother
  · -- An entry without a type is accepted only for a parameter that is there without it.
    obtain ⟨entry, hentry, hid⟩ := List.mem_map.mp hmem
    have hplaced := (exists_synthesize_iff.mp ⟨sketches, h⟩).placed entry hentry
    rw [huntyped entry hentry hid, hid, existingIds, List.mem_append] at hplaced
    simpa [hother] using hplaced

/-- A property that is excluded and neither fixed nor added again is bound only where it is called
like a structural parameter, and then to this parameter. -/
theorem compile_excluded_iff (hregistry : registry.Built)
    (htarget : ActionTarget.resolve registry definition.target = .ok target)
    (h : definition.compile registry = .ok compiled) (hproperty : property ∈ target.properties)
    (hexcluded : property.key ∈ definition.excluded)
    (hfree : property.key ∉ definition.fixedValues.map (·.1))
    (huntyped : ∀ entry ∈ definition.configuration,
      entry.1 = property.parameterId → entry.2.type = none) (value : ValueSource) :
    (∃ rule ∈ compiled.actionType.logic, (property.key, value) ∈ rule.bindings) ↔
      definition.kind ≠ .delete ∧
        property.parameterId ∈ (structuralParameters definition.kind target).map (·.id) ∧
        value = .parameter property.parameterId := by
  have hkeys := ActionTarget.keys_nodup
    (fun _ _ hobject ↦ hregistry.propertyNames_nodup hobject) htarget
  have hids := ActionTarget.parameterIds_nodup_of_keys hkeys htarget
  obtain ⟨sketches, hsketches, hparameters⟩ := exists_synthesize_of_compile htarget h
  obtain ⟨rule, hlogic, hbindings⟩ := bindings_of_compile htarget h
  have hstays : ¬ definition.StaysAsIs target property.key :=
    ((exists_synthesize_iff.mp ⟨sketches, hsketches⟩).keys _
      (List.mem_append_left _ hexcluded)).2
  have hbound : (property.key, value) ∈ definition.boundProperties target
        (compiled.actionType.parameters.map (·.id)) ↔
      property.parameterId ∈ (structuralParameters definition.kind target).map (·.id) ∧
        value = .parameter property.parameterId := by
    rw [mem_boundProperties_iff_of_keys hkeys hproperty, and_iff_right hstays,
      boundValue?_eq_some_iff, fixedValue?_eq_none_iff.mpr hfree, and_iff_right hfree, hparameters,
      mem_ids_iff_of_excluded hids hsketches hproperty (fun hkept ↦ hkept.excluded hexcluded)
        huntyped]
    exact or_iff_right nofun
  simp only [hlogic, List.mem_singleton, exists_eq_left, hbindings]
  by_cases hkind : definition.kind = .delete
  · simp [hkind]
  · rw [if_neg hkind, hbound]
    exact (and_iff_right hkind).symm

/-- The due date of a ticket is excluded and is not bound to anything. -/
theorem compile_excluded_iff_editTicket :
    ∃ target compiled,
      ActionTarget.resolve (Fixture.registry Fixture.ticket) Fixture.editTicket.target =
          .ok target ∧
        Fixture.editTicket.compile (Fixture.registry Fixture.ticket) = .ok compiled ∧
        "dueDate" ∈ target.properties.map (·.key) ∧
        ∀ value, ∀ rule ∈ compiled.actionType.logic, ("dueDate", value) ∉ rule.bindings := by
  have hresolved : (ActionTarget.resolve (Fixture.registry Fixture.ticket)
      Fixture.editTicket.target).toOption.map (fun target ↦
        decide (∃ property ∈ target.properties, property.key = "dueDate" ∧
          property.parameterId = "dueDate" ∧
          "dueDate" ∉ (structuralParameters .modify target).map (·.id))) = some true := by
    decide +kernel
  obtain ⟨target, htarget, hview⟩ := exists_of_toOption_map hresolved
  obtain ⟨compiled, hcompile, -⟩ := Fixture.editTicket_compile
  obtain ⟨property, hproperty, hkey, hid, hstructural⟩ := of_decide_eq_true hview
  have huntyped : ∀ entry ∈ Fixture.editTicket.configuration,
      entry.1 = property.parameterId → entry.2.type = none := by
    rw [hid]
    decide
  have hbound := compile_excluded_iff (Fixture.registry_built Fixture.ticket) htarget hcompile
    hproperty (by rw [hkey]; decide) (by rw [hkey]; decide) huntyped
  refine ⟨target, compiled, htarget, hcompile, List.mem_map.mpr ⟨property, hproperty, hkey⟩, ?_⟩
  intro value rule hrule hmem
  obtain ⟨-, hclash, -⟩ := (hbound value).mp ⟨rule, hrule, hkey ▸ hmem⟩
  rw [hid] at hclash
  exact hstructural hclash

end CrudDefinition

/-- An action on a lock that leaves out the property with the name of a structural parameter. -/
def Fixture.inspectLock : CrudDefinition where
  id := ⟨"com.example.inspect-lock"⟩
  kind := .modify
  target := .object ⟨"com.example.lock"⟩
  excluded := ["objectToModifyParameter"]

namespace CrudDefinition

/-- A property that has the name of a structural parameter is bound to it, though it is
excluded. -/
theorem not_forall_excluded_unbound :
    ¬ ∀ (registry : Registry) (definition : CrudDefinition) (target : ActionTarget)
      (compiled : CompiledAction), registry.Built →
      ActionTarget.resolve registry definition.target = .ok target →
      definition.compile registry = .ok compiled → ∀ property ∈ target.properties,
        property.key ∈ definition.excluded → property.key ∉ definition.fixedValues.map (·.1) →
        (∀ entry ∈ definition.configuration,
          entry.1 = property.parameterId → entry.2.type = none) →
        ∀ rule ∈ compiled.actionType.logic, property.key ∉ rule.bindings.map (·.1) := by
  intro hall
  obtain ⟨hresolved, hcompiled⟩ :
      (ActionTarget.resolve (Fixture.registry Fixture.lock)
        Fixture.inspectLock.target).toOption.map (fun target ↦
          decide ("objectToModifyParameter" ∈ target.properties.map (·.key))) = some true ∧
      (Fixture.inspectLock.compile (Fixture.registry Fixture.lock)).toOption.map
        (·.actionType.logic.map (·.bindings.map (·.1))) =
        some [["objectToModifyParameter"]] := by
    decide +kernel
  obtain ⟨target, htarget, hmem⟩ := exists_of_toOption_map hresolved
  obtain ⟨compiled, hcompile, hbound⟩ := exists_of_toOption_map hcompiled
  obtain ⟨property, hproperty, hkey⟩ := List.mem_map.mp (of_decide_eq_true hmem)
  have hunbound := hall _ _ _ _ (Fixture.registry_built _) htarget hcompile property hproperty
    (by rw [hkey]; decide) (by rw [hkey]; decide)
    fun _ hentry ↦ absurd hentry List.not_mem_nil
  obtain ⟨rule, hrule, hkeys⟩ := List.mem_map.mp (hbound ▸ List.mem_singleton_self _)
  have hfree := hunbound rule hrule
  rw [hkeys, hkey] at hfree
  exact hfree (List.mem_singleton_self _)

end CrudDefinition

end Ontology
