import Ontology.Proofs.Action.Synthesis
import Ontology.Proofs.Lookup

/-!
What the synthesis of parameters comes to. `CrudDefinition.Keeps` says which properties of a target
are filled in through a parameter, `Synthesizable` what a definition and a target have to satisfy,
and `Synthesizes` which parameters then come out: the structural ones, one for each property that is
kept, in the order of the declarations, and one for each entry of the configuration that belongs to
none of these, in the order of the entries. All of them go by the names that the configuration gives
them. `synthesize_exactly` says that the synthesis succeeds under these conditions and no others,
and with these parameters. It holds of any definition and any target, not only of the target that
the definition names.
-/

set_option autoImplicit false
set_option relaxedAutoImplicit false

namespace Ontology.CrudDefinition

open Outcome

variable {definition : CrudDefinition} {target : ActionTarget} {sketches : List ParameterSketch}
  {property : TargetProperty} {key : String}

/-! ### Kept properties -/

/-- A key is the primary key of objects that the action modifies, which stays as it is. -/
structure StaysAsIs (definition : CrudDefinition) (target : ActionTarget) (key : String) :
    Prop where
  kind : definition.kind = .modify
  object : target.isInterface = false
  primaryKey : target.primaryKey = some key

/-- A property is filled in through a parameter: the action does not delete, the property is neither
excluded nor fixed, and it is not a primary key that stays as it is. -/
structure Keeps (definition : CrudDefinition) (target : ActionTarget) (property : TargetProperty) :
    Prop where
  kind : definition.kind ≠ .delete
  excluded : property.key ∉ definition.excluded
  fixed : property.key ∉ definition.fixedValues.map (·.1)
  primaryKey : ¬ definition.StaysAsIs target property.key

theorem isKeptKey_iff : definition.isKeptKey target key ↔ definition.StaysAsIs target key := by
  simp only [isKeptKey, Bool.and_eq_true, decide_eq_true_eq, Bool.not_eq_true']
  exact ⟨fun ⟨⟨hkind, hobject⟩, hkey⟩ ↦ ⟨hkind, hobject, hkey⟩,
    fun ⟨hkind, hobject, hkey⟩ ↦ ⟨⟨hkind, hobject⟩, hkey⟩⟩

theorem not_isKeptKey_iff :
    !definition.isKeptKey target key ↔ ¬ definition.StaysAsIs target key := by
  rw [Bool.not_eq_true', ← Bool.not_eq_true, isKeptKey_iff]

theorem fixedValue?_eq_none_iff :
    definition.fixedValue? key = none ↔ key ∉ definition.fixedValues.map (·.1) := by
  rw [fixedValue?, Option.map_eq_none_iff, List.find?_eq_none]
  constructor
  · intro h hmem
    obtain ⟨entry, hentry, hkey⟩ := List.mem_map.mp hmem
    exact h entry hentry (by simpa using hkey)
  · intro h entry hentry hkey
    exact h (List.mem_map.mpr ⟨entry, hentry, by simpa using hkey⟩)

theorem takesParameter_iff :
    definition.takesParameter target property ↔ definition.Keeps target property := by
  simp only [takesParameter, Bool.and_eq_true, decide_eq_true_eq, Option.isNone_iff_eq_none,
    fixedValue?_eq_none_iff, not_isKeptKey_iff]
  exact ⟨fun ⟨⟨⟨hkind, hkey⟩, hexcluded⟩, hfixed⟩ ↦ ⟨hkind, hexcluded, hfixed, hkey⟩,
    fun ⟨hkind, hexcluded, hfixed, hkey⟩ ↦ ⟨⟨⟨hkind, hkey⟩, hexcluded⟩, hfixed⟩⟩

instance (definition : CrudDefinition) (target : ActionTarget) :
    DecidablePred (definition.Keeps target) :=
  fun _ ↦ decidable_of_iff _ takesParameter_iff

/-- The properties that are filled in through a parameter, in the order of their declaration. -/
def keptProperties (definition : CrudDefinition) (target : ActionTarget) : List TargetProperty :=
  target.properties.filter (definition.Keeps target)

theorem mem_keptProperties_iff :
    property ∈ definition.keptProperties target ↔
      property ∈ target.properties ∧ definition.Keeps target property := by
  rw [keptProperties, List.mem_filter, decide_eq_true_eq]

theorem parameterProperties_eq :
    definition.parameterProperties target = definition.keptProperties target := by
  refine List.filter_congr fun property _ ↦ ?_
  rw [Bool.eq_iff_iff, takesParameter_iff, decide_eq_true_eq]

/-! ### Names and types -/

/-- A parameter under the display name and the description that the configuration gives it. In all
else it stays as it was. -/
structure Names (definition : CrudDefinition) (before after : ParameterSketch) : Prop where
  id : after.id = before.id
  type : after.type = before.type
  required : after.required = before.required
  displayName : after.displayName =
    ((definition.configuration? before.id).bind (·.displayName)).getD before.displayName
  description : after.description =
    ((definition.configuration? before.id).bind (·.description)).or before.description

/-- The names that the configuration gives settle a parameter. -/
theorem Names.unique {before after other : ParameterSketch} (h : definition.Names before after)
    (hother : definition.Names before other) : after = other := by
  obtain ⟨id, displayName, description, type, required⟩ := after
  obtain ⟨otherId, otherDisplayName, otherDescription, otherType, otherRequired⟩ := other
  rw [ParameterSketch.mk.injEq]
  exact ⟨h.id.trans hother.id.symm, h.displayName.trans hother.displayName.symm,
    h.description.trans hother.description.symm, h.type.trans hother.type.symm,
    h.required.trans hother.required.symm⟩

theorem names_relabel (definition : CrudDefinition) (sketch : ParameterSketch) :
    definition.Names sketch (definition.relabel sketch) := by
  cases hdraft : definition.configuration? sketch.id with
  | none => constructor <;> simp [relabel, hdraft]
  | some draft => constructor <;> simp [relabel, hdraft]

theorem names_iff {before after : ParameterSketch} :
    definition.Names before after ↔ definition.relabel before = after := by
  constructor
  · intro h
    exact (definition.names_relabel before).unique h
  · rintro rfl
    exact definition.names_relabel before

/-- The type of the parameter of a property: the one that the configuration gives, or else the one
that goes with the type of the property. -/
def typeOf? (definition : CrudDefinition) (property : TargetProperty) : Option ParameterType :=
  ((definition.configuration? property.parameterId).bind (·.type)).or property.type.parameterType?

theorem propertyParameterType_eq_ok_iff {type : ParameterType} :
    definition.propertyParameterType property = .ok type ↔
      definition.typeOf? property = some type := by
  unfold propertyParameterType typeOf?
  cases (definition.configuration? property.parameterId).bind (·.type) with
  | some given => simp
  | none =>
    cases property.type.parameterType? <;> simp

/-! ### Groups of parameters -/

/-- The ids of the structural parameters and of those of the kept properties. -/
def existingIds (definition : CrudDefinition) (target : ActionTarget) : List String :=
  (structuralParameters definition.kind target).map (·.id) ++
    (definition.keptProperties target).map (·.parameterId)

/-- The entries of the configuration that belong to none of these parameters. -/
def newEntries (definition : CrudDefinition) (target : ActionTarget) :
    List (String × ParameterDraft) :=
  definition.configuration.filter (·.1 ∉ definition.existingIds target)

/-- The parameter of a property goes by the name of the property and need not be given, unless the
configuration has it otherwise. -/
def Fills (definition : CrudDefinition) (property : TargetProperty) (sketch : ParameterSketch) :
    Prop :=
  ∃ type, definition.typeOf? property = some type ∧
    definition.Names ⟨property.parameterId, property.displayName, none, type, false⟩ sketch

/-- An entry with a type adds a parameter, which is shown by its id unless told otherwise. -/
def Adds (definition : CrudDefinition) (entry : String × ParameterDraft)
    (sketch : ParameterSketch) : Prop :=
  ∃ type, entry.2.type = some type ∧
    definition.Names ⟨entry.1, entry.2.displayName.getD entry.1, entry.2.description, type,
      entry.2.required.getD false⟩ sketch

/-- What a definition and a target have to satisfy for the parameters to be worked out. -/
structure Synthesizable (definition : CrudDefinition) (target : ActionTarget) : Prop where
  /-- What is excluded or fixed are properties of the target, and none of them is a primary key that
  stays as it is. -/
  keys : ∀ key ∈ definition.excluded ++ definition.fixedValues.map (·.1),
    key ∈ target.properties.map (·.key) ∧ ¬ definition.StaysAsIs target key
  /-- The configuration gives a type to the parameter of a kept property, or there is one that goes
  with the type of the property. -/
  types : ∀ property ∈ target.properties, definition.Keeps target property →
    (∃ entry ∈ definition.configuration,
        entry.1 = property.parameterId ∧ entry.2.type.isSome) ∨
      property.type.parameterType?.isSome
  distinct : (definition.configuration.map (·.1)).Nodup
  /-- Every entry belongs to a structural parameter or to that of a kept property, or it gives a
  type. -/
  placed : ∀ entry ∈ definition.configuration,
    entry.1 ∈ definition.existingIds target ∨ entry.2.type.isSome

/-- The structural parameters, then those of the kept properties, then those of the new entries, all
under the names that the configuration gives them. -/
def Synthesizes (definition : CrudDefinition) (target : ActionTarget)
    (sketches : List ParameterSketch) : Prop :=
  ∃ structural ofProperties added, sketches = structural ++ ofProperties ++ added ∧
    List.Forall₂ definition.Names (structuralParameters definition.kind target) structural ∧
    List.Forall₂ definition.Fills (definition.keptProperties target) ofProperties ∧
    List.Forall₂ definition.Adds (definition.newEntries target) added

theorem fills_iff {sketch : ParameterSketch} :
    definition.Fills property sketch ↔
      definition.relabel <$> definition.propertyParameter property = .ok sketch := by
  simp only [Fills, propertyParameter, map_eq_ok_iff, bind_eq_ok_iff, pure_eq_ok_iff,
    propertyParameterType_eq_ok_iff, names_iff]
  constructor
  · rintro ⟨type, htype, hlabel⟩
    exact ⟨_, ⟨type, htype, rfl⟩, hlabel⟩
  · rintro ⟨_, ⟨type, htype, rfl⟩, hlabel⟩
    exact ⟨type, htype, hlabel⟩

theorem addedParameter_eq_ok_iff {id : String} {draft : ParameterDraft} {sketch : ParameterSketch} :
    addedParameter target id draft = .ok sketch ↔
      ∃ type, draft.type = some type ∧
        ⟨id, draft.displayName.getD id, draft.description, type, draft.required.getD false⟩ =
          sketch := by
  unfold addedParameter
  cases draft.type with
  | some type => simp
  | none =>
    dsimp only
    split_ifs <;> simp

theorem adds_iff (target : ActionTarget) {entry : String × ParameterDraft}
    {sketch : ParameterSketch} :
    definition.Adds entry sketch ↔
      definition.relabel <$> addedParameter target entry.1 entry.2 = .ok sketch := by
  simp only [Adds, map_eq_ok_iff, addedParameter_eq_ok_iff, names_iff]
  constructor
  · rintro ⟨type, htype, hlabel⟩
    exact ⟨_, ⟨type, htype, rfl⟩, hlabel⟩
  · rintro ⟨_, ⟨type, htype, rfl⟩, hlabel⟩
    exact ⟨type, htype, hlabel⟩

theorem checkPropertyKey_eq_ok_iff :
    definition.checkPropertyKey target key = .ok () ↔
      key ∈ target.properties.map (·.key) ∧ ¬ definition.StaysAsIs target key := by
  have hproperty : (∃ property, target.requireProperty key = .ok property) ↔
      key ∈ target.properties.map (·.key) := by
    unfold ActionTarget.requireProperty ActionTarget.property?
    cases hfound : target.properties.find? (·.key = key) with
    | none =>
      rw [List.find?_eq_none] at hfound
      simpa using hfound
    | some property =>
      have hkey : property.key = key := by simpa using List.find?_some hfound
      exact iff_of_true ⟨property, rfl⟩
        (List.mem_map.mpr ⟨property, List.mem_of_find?_eq_some hfound, hkey⟩)
  rw [← hproperty, ← isKeptKey_iff]
  simp only [checkPropertyKey, bind_eq_ok_iff, exists_and_right]
  split <;> simp_all

/-! ### The synthesis -/

theorem forall₂_names_iff {before : List ParameterSketch} :
    List.Forall₂ definition.Names before sketches ↔ before.map definition.relabel = sketches := by
  rw [← List.forall₂_eq_eq_eq, List.forall₂_map_left_iff]
  exact ⟨fun h ↦ h.imp fun _ _ ↦ names_iff.mp, fun h ↦ h.imp fun _ _ ↦ names_iff.mpr⟩

theorem forall₂_fills_iff {properties : List TargetProperty} :
    List.Forall₂ definition.Fills properties sketches ↔
      ∃ drawn, properties.mapM definition.propertyParameter = .ok drawn ∧
        drawn.map definition.relabel = sketches := by
  refine forall₂_iff_mapM_map fun property sketch ↦ ?_
  exact fills_iff

theorem forall₂_adds_iff (target : ActionTarget) {entries : List (String × ParameterDraft)} :
    List.Forall₂ definition.Adds entries sketches ↔
      ∃ drawn, entries.mapM (fun entry ↦ addedParameter target entry.1 entry.2) = .ok drawn ∧
        drawn.map definition.relabel = sketches := by
  refine forall₂_iff_mapM_map fun entry sketch ↦ ?_
  exact adds_iff target

/-- The configuration is read against the ids of the two groups before it, whatever the parameters
of the properties otherwise are. -/
theorem addedParameters_existing_iff {ofProperties added : List ParameterSketch}
    (hproperties :
      (definition.keptProperties target).mapM definition.propertyParameter = .ok ofProperties) :
    addedParameters target
        ((structuralParameters definition.kind target ++ ofProperties).map (·.id)) []
        definition.configuration = .ok added ↔
      (definition.configuration.map (·.1)).Nodup ∧
        (definition.newEntries target).mapM (fun entry ↦ addedParameter target entry.1 entry.2) =
          .ok added := by
  have hids : (structuralParameters definition.kind target ++ ofProperties).map (·.id) =
      definition.existingIds target := by
    rw [List.map_append, map_eq_of_mapM hproperties fun _ _ ↦ propertyParameter_id, existingIds]
  rw [hids, addedParameters_eq_ok_iff, newEntries]
  exact and_congr_left fun _ ↦ and_iff_left fun _ _ ↦ List.not_mem_nil

/-- A synthesis succeeds when the keys pass and are distinct and every group comes about. -/
theorem synthesize_eq_ok_iff_synthesizes :
    definition.synthesize target = .ok sketches ↔
      (∀ key ∈ definition.excluded ++ definition.fixedValues.map (·.1),
        key ∈ target.properties.map (·.key) ∧ ¬ definition.StaysAsIs target key) ∧
      (definition.configuration.map (·.1)).Nodup ∧ definition.Synthesizes target sketches := by
  simp only [synthesize_eq_ok_iff, checkPropertyKey_eq_ok_iff, parameterProperties_eq, Synthesizes,
    forall₂_names_iff, forall₂_fills_iff, forall₂_adds_iff target]
  refine and_congr_right fun _ ↦ ⟨?_, ?_⟩
  · rintro ⟨ofProperties, hproperties, added, hadded, rfl⟩
    obtain ⟨hdistinct, hadded⟩ := (addedParameters_existing_iff hproperties).mp hadded
    refine ⟨hdistinct, _, _, _, ?_, rfl, ⟨ofProperties, hproperties, rfl⟩, added, hadded, rfl⟩
    rw [List.map_append, List.map_append]
  · rintro ⟨hdistinct, _, _, _, rfl, rfl, ⟨ofProperties, hproperties, rfl⟩, added, hadded, rfl⟩
    refine ⟨ofProperties, hproperties, added,
      (addedParameters_existing_iff hproperties).mpr ⟨hdistinct, hadded⟩, ?_⟩
    rw [List.map_append, List.map_append]

/-! ### What has to hold -/

/-- Where the entries have ids of their own, a property has a type when some entry of its id gives
one, or when there is one that goes with its own. -/
theorem typeOf?_isSome_iff (hdistinct : (definition.configuration.map (·.1)).Nodup) :
    (definition.typeOf? property).isSome ↔
      (∃ entry ∈ definition.configuration,
          entry.1 = property.parameterId ∧ entry.2.type.isSome) ∨
        property.type.parameterType?.isSome := by
  have hgiven : ((definition.configuration? property.parameterId).bind (·.type)).isSome ↔
      ∃ entry ∈ definition.configuration,
        entry.1 = property.parameterId ∧ entry.2.type.isSome := by
    simp only [configuration?, Option.isSome_iff_exists, Option.bind_eq_some_iff,
      Option.map_eq_some_iff, Lookup.find?_eq_some_iff hdistinct]
    constructor
    · rintro ⟨type, _, ⟨entry, ⟨hentry, hid⟩, rfl⟩, htype⟩
      exact ⟨entry, hentry, hid, type, htype⟩
    · rintro ⟨entry, hentry, hid, type, htype⟩
      exact ⟨type, _, ⟨entry, ⟨hentry, hid⟩, rfl⟩, htype⟩
  rw [typeOf?, Option.isSome_or, Bool.or_eq_true, hgiven]

/-- Every name and every setting is one that can be given, so only types can be missing. -/
theorem exists_synthesizes_iff :
    (∃ sketches, definition.Synthesizes target sketches) ↔
      (∀ property ∈ definition.keptProperties target, (definition.typeOf? property).isSome) ∧
      ∀ entry ∈ definition.newEntries target, entry.2.type.isSome := by
  have hfills : ∀ property, (∃ sketch, definition.Fills property sketch) ↔
      (definition.typeOf? property).isSome := fun property ↦ by
    rw [Option.isSome_iff_exists]
    exact ⟨fun ⟨_, type, htype, _⟩ ↦ ⟨type, htype⟩,
      fun ⟨type, htype⟩ ↦ ⟨_, type, htype, definition.names_relabel _⟩⟩
  have hadds : ∀ entry, (∃ sketch, definition.Adds entry sketch) ↔ entry.2.type.isSome :=
    fun entry ↦ by
      rw [Option.isSome_iff_exists]
      exact ⟨fun ⟨_, type, htype, _⟩ ↦ ⟨type, htype⟩,
        fun ⟨type, htype⟩ ↦ ⟨_, type, htype, definition.names_relabel _⟩⟩
  simp only [← hfills, ← hadds, ← exists_forall₂_iff, Synthesizes]
  constructor
  · rintro ⟨_, _, ofProperties, added, -, -, hproperties, hadded⟩
    exact ⟨⟨ofProperties, hproperties⟩, added, hadded⟩
  · rintro ⟨⟨ofProperties, hproperties⟩, added, hadded⟩
    exact ⟨_, _, ofProperties, added, rfl, forall₂_names_iff.mpr rfl, hproperties, hadded⟩

theorem exists_synthesize_iff :
    (∃ sketches, definition.synthesize target = .ok sketches) ↔
      definition.Synthesizable target := by
  simp only [synthesize_eq_ok_iff_synthesizes, exists_and_left, exists_synthesizes_iff]
  constructor
  · rintro ⟨hkeys, hdistinct, htypes, hnew⟩
    refine ⟨hkeys, fun property hproperty hkept ↦ ?_, hdistinct, fun entry hentry ↦ ?_⟩
    · have hmem := mem_keptProperties_iff.mpr ⟨hproperty, hkept⟩
      exact (typeOf?_isSome_iff hdistinct).mp (htypes property hmem)
    · by_cases hexisting : entry.1 ∈ definition.existingIds target
      · exact .inl hexisting
      · exact .inr (hnew entry (List.mem_filter.mpr ⟨hentry, decide_eq_true hexisting⟩))
  · intro h
    refine ⟨h.keys, h.distinct, fun property hproperty ↦ ?_, fun entry hentry ↦ ?_⟩
    · obtain ⟨hmem, hkept⟩ := mem_keptProperties_iff.mp hproperty
      exact (typeOf?_isSome_iff h.distinct).mpr (h.types property hmem hkept)
    · obtain ⟨hmem, hnew⟩ := List.mem_filter.mp hentry
      exact (h.placed entry hmem).resolve_left (of_decide_eq_true hnew)

/-- The parameters can be worked out for the definitions and targets that are synthesizable and for
no others, and then they are the ones that are described, in this order. -/
theorem synthesize_exactly (definition : CrudDefinition) (target : ActionTarget) :
    ((∃ sketches, definition.synthesize target = .ok sketches) ↔
        definition.Synthesizable target) ∧
      ∀ sketches, definition.synthesize target = .ok sketches ↔
        definition.Synthesizable target ∧ definition.Synthesizes target sketches := by
  refine ⟨exists_synthesize_iff, fun sketches ↦ ⟨fun h ↦ ?_, fun ⟨hable, h⟩ ↦ ?_⟩⟩
  · have hable : definition.Synthesizable target := exists_synthesize_iff.mp ⟨sketches, h⟩
    exact ⟨hable, (synthesize_eq_ok_iff_synthesizes.mp h).2.2⟩
  · exact synthesize_eq_ok_iff_synthesizes.mpr ⟨hable.keys, hable.distinct, h⟩

end Ontology.CrudDefinition
