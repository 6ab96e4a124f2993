import Ontology.Proofs.Inheritance.Flattening

/-!
The walk over the interfaces computes the flattening. `firstOfEach` keeps the first property under
each identifier. Each stage of the walk adds a stretch of the flattening to what was found before
(`Adds`): a declaration adds one property, the declarations of an interface add its own, and the
walk through an interface adds its flattening, provided that it leads back to no interface on the
trail (`Flattening.adds_collectProperties`). A walk that succeeds has gone through a flattening
(`exists_flattening_of_collectProperties`), so the effective properties of an interface are the
first of each in a flattening whose types agree, and there are none otherwise
(`interfaceProperties_eq_ok_iff`).
-/

set_option autoImplicit false
set_option relaxedAutoImplicit false

namespace Ontology.Registry

open Outcome Relation

variable {registry : Registry} {root id : Identifier} {trail : List Identifier}
  {interface : InterfaceType} {declared : List InterfaceProperty} {property : EffectiveProperty}
  {properties own flattened effective : List EffectiveProperty}

/-! ### The first of each -/

/-- The first of the properties under each identifier, in their order. -/
def firstOfEach : List EffectiveProperty → List EffectiveProperty
  | [] => []
  | property :: rest => property :: (firstOfEach rest).filter (·.id ≠ property.id)

/-- Looking up an identifier finds the same property as before. -/
theorem find?_firstOfEach (id : Identifier) (properties : List EffectiveProperty) :
    (firstOfEach properties).find? (·.id = id) = properties.find? (·.id = id) := by
  induction properties with
  | nil => rfl
  | cons property rest ih =>
    rw [firstOfEach, List.find?_cons, List.find?_cons, List.find?_filter]
    by_cases hid : property.id = id
    · simp [hid]
    · have hkept (other : EffectiveProperty) :
          (other.id ≠ property.id ∧ other.id = id) ↔ other.id = id :=
        and_iff_right_of_imp fun hother ↦ hother ▸ Ne.symm hid
      simp only [hid, decide_false, decide_eq_true_eq, hkept, ih]

/-- Of two lists in a row, the second keeps what the first has not. -/
theorem firstOfEach_append (first second : List EffectiveProperty) :
    firstOfEach (first ++ second) =
      firstOfEach first ++ (firstOfEach second).filter fun property ↦
        ∀ earlier ∈ first, property.id ≠ earlier.id := by
  induction first with
  | nil => simp [firstOfEach]
  | cons property rest ih =>
    simp only [List.cons_append, firstOfEach, ih, List.filter_append, List.filter_filter,
      List.forall_mem_cons, Bool.decide_and]

theorem firstOfEach_append_of_forall_ne
    (h : ∀ earlier ∈ properties, earlier.id ≠ property.id) :
    firstOfEach (properties ++ [property]) = firstOfEach properties ++ [property] := by
  rw [firstOfEach_append]
  congr 1
  exact List.filter_eq_self.mpr (by simpa [firstOfEach, eq_comm] using h)

theorem firstOfEach_append_of_mem {earlier : EffectiveProperty} (hmem : earlier ∈ properties)
    (hid : earlier.id = property.id) :
    firstOfEach (properties ++ [property]) = firstOfEach properties := by
  rw [firstOfEach_append, List.append_right_eq_self, List.filter_eq_nil_iff]
  simpa [firstOfEach] using ⟨earlier, hmem, hid.symm⟩

/-- What is kept goes by identifiers of its own. -/
theorem nodup_firstOfEach (properties : List EffectiveProperty) :
    ((firstOfEach properties).map (·.id)).Nodup := by
  induction properties with
  | nil => exact .nil
  | cons property rest ih =>
    rw [firstOfEach, List.map_cons, List.nodup_cons]
    refine ⟨?_, ih.sublist (List.filter_sublist.map _)⟩
    simp

/-! ### Agreement on types -/

/-- Two lists in a row agree when each does and both agree with one another. -/
theorem typesAgree_append_iff :
    TypesAgree (properties ++ own) ↔ TypesAgree properties ∧ TypesAgree own ∧
      ∀ property ∈ properties, ∀ other ∈ own, property.id = other.id →
        property.type = other.type := by
  constructor
  · intro h
    refine ⟨?_, ?_, fun property hproperty other hother ↦ ?_⟩
    · exact fun property hproperty other hother ↦
        h property (List.mem_append_left _ hproperty) other (List.mem_append_left _ hother)
    · exact fun property hproperty other hother ↦
        h property (List.mem_append_right _ hproperty) other (List.mem_append_right _ hother)
    · exact h property (List.mem_append_left _ hproperty) other (List.mem_append_right _ hother)
  · rintro ⟨hproperties, hown, hacross⟩ property hproperty other hother hid
    rcases List.mem_append.mp hproperty with hproperty | hproperty <;>
      rcases List.mem_append.mp hother with hother | hother
    · exact hproperties property hproperty other hother hid
    · exact hacross property hproperty other hother hid
    · exact (hacross other hother property hproperty hid.symm).symm
    · exact hown property hproperty other hother hid

theorem TypesAgree.of_append (h : TypesAgree (properties ++ own)) : TypesAgree properties :=
  (typesAgree_append_iff.mp h).1

/-- One more property agrees when it has the type of those under its identifier. -/
theorem typesAgree_append_singleton :
    TypesAgree (properties ++ [property]) ↔
      TypesAgree properties ∧ ∀ earlier ∈ properties, earlier.id = property.id →
        earlier.type = property.type := by
  have hsingle : TypesAgree [property] := by simp [TypesAgree]
  rw [typesAgree_append_iff, and_iff_right hsingle]
  simp only [List.forall_mem_singleton]

/-! ### Stages of the walk -/

/-- A stage adds properties to those found before it: it keeps the first of each, and succeeds
exactly when the types agree. -/
def Adds (stage : List EffectiveProperty → Except SchemaError (List EffectiveProperty))
    (added : List EffectiveProperty) : Prop :=
  ∀ before found, TypesAgree before →
    (stage (firstOfEach before) = .ok found ↔
      TypesAgree (before ++ added) ∧ firstOfEach (before ++ added) = found)

/-- One stage after another adds what both add. -/
theorem Adds.bind
    {first second : List EffectiveProperty → Except SchemaError (List EffectiveProperty)}
    {more : List EffectiveProperty} (hfirst : Adds first own) (hsecond : Adds second more) :
    Adds (fun found ↦ first found >>= second) (own ++ more) := by
  intro before found hbefore
  rw [bind_eq_ok_iff, ← List.append_assoc]
  constructor
  · rintro ⟨between, hbetween, hfound⟩
    obtain ⟨hagree, rfl⟩ := (hfirst before between hbefore).mp hbetween
    exact (hsecond _ found hagree).mp hfound
  · intro h
    have hagree := h.1.of_append
    exact ⟨_, (hfirst before _ hbefore).mpr ⟨hagree, rfl⟩, (hsecond _ found hagree).mpr h⟩

/-- Stages in a row add what each of them adds. -/
theorem adds_foldlM {α : Type}
    {stage : List EffectiveProperty → α → Except SchemaError (List EffectiveProperty)}
    {items : List α} {parts : List (List EffectiveProperty)}
    (h : List.Forall₂ (fun item part ↦ Adds (stage · item) part) items parts) :
    Adds (fun found ↦ items.foldlM stage found) parts.flatten := by
  induction h with
  | nil =>
    intro before found hbefore
    simp [hbefore]
  | cons hitem _ ih =>
    simp only [List.foldlM_cons, List.flatten_cons]
    exact hitem.bind ih

theorem adds_mergeProperty : Adds (mergeProperty root · property) [property] := by
  intro before found hbefore
  change mergeProperty root (firstOfEach before) property = .ok found ↔ _
  rw [mergeProperty, find?_firstOfEach, typesAgree_append_singleton]
  cases hfirst : before.find? (·.id = property.id) with
  | none =>
    have hnew : ∀ earlier ∈ before, earlier.id ≠ property.id := by
      simpa using List.find?_eq_none.mp hfirst
    have hagree : ∀ earlier ∈ before, earlier.id = property.id → earlier.type = property.type :=
      fun earlier hearlier hid ↦ absurd hid (hnew earlier hearlier)
    rw [firstOfEach_append_of_forall_ne hnew, Except.ok.injEq]
    exact (and_iff_right ⟨hbefore, hagree⟩).symm
  | some first =>
    have hmem := List.mem_of_find?_eq_some hfirst
    have hid : first.id = property.id := by simpa using List.find?_some hfirst
    -- The types of the earlier ones agree, so the first of them speaks for all.
    have hagree : (∀ earlier ∈ before, earlier.id = property.id → earlier.type = property.type) ↔
        first.type = property.type := by
      refine ⟨fun h ↦ h first hmem hid, fun htype earlier hearlier hsame ↦ ?_⟩
      rw [hbefore earlier hearlier first hmem (hsame.trans hid.symm), htype]
    rw [firstOfEach_append_of_mem hmem hid, hagree, and_iff_right hbefore]
    dsimp only
    split_ifs with htype
    · rw [Except.ok.injEq, and_iff_right htype]
    · exact iff_of_false (by simp) fun h ↦ htype h.1

theorem adds_mergeDeclared (h : List.Forall₂ (registry.StandsFor id) declared own) :
    Adds (registry.mergeDeclared root id · declared) own := by
  have hstages : List.Forall₂ (fun declaration part ↦
      Adds (fun found ↦ do mergeProperty root found (← registry.resolveProperty id declaration))
        part) declared (own.map ([·])) := by
    rw [List.forall₂_map_right_iff]
    refine h.imp fun declaration property hstands ↦ ?_
    rw [resolveProperty_eq_ok_iff.mpr hstands]
    exact adds_mergeProperty
  have hadds := adds_foldlM hstages
  rwa [← List.flatMap_def, List.flatMap_singleton'] at hadds

/-- What the declarations of an interface stand for is found when they merge. -/
theorem exists_of_mergeDeclared {found result : List EffectiveProperty}
    (h : registry.mergeDeclared root id found declared = .ok result) :
    ∃ own, List.Forall₂ (registry.StandsFor id) declared own := by
  refine exists_forall₂ fun declaration hdeclaration ↦ ?_
  obtain ⟨before, after, hstep⟩ := exists_step_of_foldlM h hdeclaration
  rw [bind_eq_ok_iff] at hstep
  obtain ⟨property, hproperty, -⟩ := hstep
  exact ⟨property, resolveProperty_eq_ok_iff.mp hproperty⟩

/-! ### The walk -/

/-- Off the trail the walk merges the declarations of an interface and goes on to its parents. -/
theorem collectProperties_of_interface (hoff : id ∉ trail)
    (hinterface : registry.interfaceType? id = some interface) (found : List EffectiveProperty) :
    registry.collectProperties root trail found id =
      registry.mergeDeclared root id found interface.properties >>= fun found ↦
        interface.parents.foldlM (registry.collectProperties root (id :: trail)) found := by
  rw [collectProperties, dif_neg hoff]
  split
  · next hnone => simp [hinterface] at hnone
  · next found hfound =>
    cases hinterface.symm.trans hfound
    rfl

/-- Off the trail the walk fails at an interface that is not registered. -/
theorem collectProperties_of_none (hoff : id ∉ trail) (hnone : registry.interfaceType? id = none)
    (found : List EffectiveProperty) :
    registry.collectProperties root trail found id =
      .error (.unknownInterfaceType id ((trail.head?.map (·.text)).getD "action")) := by
  rw [collectProperties, dif_neg hoff]
  split
  · rfl
  · next hfound => simp [hnone] at hfound

/-- The walk through an interface adds its flattening when it leads back to no interface on the
trail. -/
theorem Flattening.adds_collectProperties (h : registry.Flattening id flattened)
    (hoff : ∀ below ∈ trail, ¬ registry.Reaches id below) :
    Adds (fun found ↦ registry.collectProperties root trail found id) flattened := by
  induction h generalizing trail with
  | @of id interface own inherited hinterface hown hinherited ih =>
    have hnotOn : id ∉ trail := fun hmem ↦ hoff id hmem .refl
    have hcycle := (Flattening.of hinterface hown hinherited).not_cycle
    simp only [collectProperties_of_interface hnotOn hinterface]
    refine (adds_mergeDeclared hown).bind ?_
    rw [List.flatMap_def]
    refine adds_foldlM ?_
    rw [List.forall₂_map_right_iff, List.forall₂_same]
    intro parent hparent
    have hextends : registry.Extends id parent := ⟨interface, hinterface, hparent⟩
    refine ih parent hparent fun below hbelow hback ↦ ?_
    rcases List.mem_cons.mp hbelow with rfl | hbelow
    · exact hcycle (TransGen.head' hextends hback)
    · exact hoff below hbelow (.head hextends hback)

/-- A walk that succeeds has gone through a flattening. -/
theorem exists_flattening_of_collectProperties {found result : List EffectiveProperty}
    (h : registry.collectProperties root trail found id = .ok result) :
    ∃ flattened, registry.Flattening id flattened := by
  induction trail, found, id using collectProperties.induct registry generalizing result with
  | case1 trail found id hon =>
    rw [collectProperties, dif_pos hon] at h
    cases h
  | case2 trail found id hoff hnone =>
    rw [collectProperties, dif_neg hoff] at h
    split at h
    · cases h
    · next hfound => simp [hnone] at hfound
  | case3 trail found id hoff interface hinterface ih =>
    rw [collectProperties_of_interface hoff hinterface, bind_eq_ok_iff] at h
    obtain ⟨merged, hmerged, hparents⟩ := h
    obtain ⟨own, hown⟩ := exists_of_mergeDeclared hmerged
    have hflattening : ∀ parent ∈ interface.parents,
        ∃ flattened, registry.Flattening parent flattened := by
      intro parent hparent
      obtain ⟨before, after, hstep⟩ := exists_step_of_foldlM hparents hparent
      exact ih before parent hstep
    choose! inherited hinherited using hflattening
    exact ⟨_, .of hinterface hown hinherited⟩

/-! ### Effective properties -/

/-- The effective properties of an interface are the first of each in its flattening, in which the
types agree. -/
theorem interfaceProperties_eq_ok_iff :
    registry.interfaceProperties id = .ok effective ↔
      ∃ flattened, registry.Flattening id flattened ∧ TypesAgree flattened ∧
        firstOfEach flattened = effective := by
  have hadds {flattened : List EffectiveProperty} (hflattened : registry.Flattening id flattened) :
      registry.interfaceProperties id = .ok effective ↔
        TypesAgree flattened ∧ firstOfEach flattened = effective :=
    hflattened.adds_collectProperties (by simp) [] effective (by simp [TypesAgree])
  constructor
  · intro h
    obtain ⟨flattened, hflattened⟩ := exists_flattening_of_collectProperties h
    exact ⟨flattened, hflattened, (hadds hflattened).mp h⟩
  · rintro ⟨flattened, hflattened, h⟩
    exact (hadds hflattened).mpr h

/-- The effective properties of an interface go by identifiers of their own. -/
theorem nodup_of_interfaceProperties (h : registry.interfaceProperties id = .ok effective) :
    (effective.map (·.id)).Nodup := by
  obtain ⟨flattened, -, -, rfl⟩ := interfaceProperties_eq_ok_iff.mp h
  exact nodup_firstOfEach flattened

/-- The effective properties of an interface can be computed exactly when it is coherent, and they
are then the first of each in its flattening. -/
theorem interfaceProperties_iff_coherent (registry : Registry) (id : Identifier) :
    ((∃ effective, registry.interfaceProperties id = .ok effective) ↔ registry.Coherent id) ∧
    ∀ effective, registry.interfaceProperties id = .ok effective ↔
      registry.Coherent id ∧
        ∃ flattened, registry.Flattening id flattened ∧ firstOfEach flattened = effective := by
  simp only [interfaceProperties_eq_ok_iff, coherent_iff_flattening]
  constructor
  · constructor
    · rintro ⟨effective, flattened, hflattened, hagree, -⟩
      exact ⟨flattened, hflattened, hagree⟩
    · rintro ⟨flattened, hflattened, hagree⟩
      exact ⟨_, flattened, hflattened, hagree, rfl⟩
  · intro effective
    constructor
    · rintro ⟨flattened, hflattened, hagree, hfirst⟩
      exact ⟨⟨flattened, hflattened, hagree⟩, flattened, hflattened, hfirst⟩
    · rintro ⟨⟨flattened, hflattened, hagree⟩, other, hother, hfirst⟩
      cases hflattened.unique hother
      exact ⟨flattened, hflattened, hagree, hfirst⟩

end Ontology.Registry
