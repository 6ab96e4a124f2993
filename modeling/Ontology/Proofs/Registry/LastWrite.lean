import Ontology.Dump
import Ontology.Proofs.Registry.Entities
import Ontology.Scenario.Fixture
import Mathlib.Data.List.Induction
import Mathlib.Data.List.Pairwise

/-!
What a registry holds after any number of writes. Every write but a reset is to one place: an entity
of a kind and an identifier on one side, or the restriction of an action. `LastWrite` names the last
write to a place, where a reset undoes all before it. What is found at a place is what its last
write has put there (`find?_ofWrites`, `permission?_ofWrites`), so lookups, and snapshots with all
that they list, depend on the last writes alone (`lookup_ofWrites`), and writes to different places
may change their order.
-/

set_option autoImplicit false
set_option relaxedAutoImplicit false

namespace Ontology

/-- The two sides of a registry. -/
inductive Side where
  /-- What the session defines. -/
  | defined
  /-- What stands for reference only. -/
  | imported
deriving DecidableEq

/-! ### Writes -/

namespace Registry

/-- The entities on one side. -/
def side (registry : Registry) : Side → EntityStore
  | .defined => registry.defined
  | .imported => registry.imported

/-- One change to a registry. -/
inductive Write where
  | put (side : Side) (entity : Entity)
  | restrict (permission : ActionPermission)
  | unrestrict (action : Identifier)
  | reset

/-- What a write replaces as a whole. -/
inductive Place where
  | entity (side : Side) (kind : EntityKind) (id : Identifier)
  | permission (action : Identifier)
deriving DecidableEq

namespace Write

/-- The place that a write is to; a reset is to none in particular. -/
def place? : Write → Option Place
  | .put side entity => some (.entity side entity.kind entity.id)
  | .restrict permission => some (.permission permission.actionType)
  | .unrestrict action => some (.permission action)
  | .reset => none

/-- A write decides what is at a place: it is to this place, or it is a reset. -/
def Touches (write : Write) (place : Place) : Prop :=
  write.place? = none ∨ write.place? = some place

instance (write : Write) (place : Place) : Decidable (write.Touches place) :=
  inferInstanceAs (Decidable (_ ∨ _))

/-- The entity that a write leaves at its place. -/
def entity? : Write → Option Entity
  | .put _ entity => some entity
  | _ => none

/-- The restriction that a write leaves at its place. -/
def permission? : Write → Option ActionPermission
  | .restrict permission => some permission
  | _ => none

/-- Two writes are to different places. -/
def Apart (first second : Write) : Prop :=
  ∃ place other, first.place? = some place ∧ second.place? = some other ∧ place ≠ other

end Write

/-- The registry after a write. -/
def perform (registry : Registry) : Write → Registry
  | .put .defined entity => registry.register entity
  | .put .imported entity => registry.addImported entity
  | .restrict permission => registry.restrict permission
  | .unrestrict action => registry.unrestrict action
  | .reset => .empty

/-- The registry that writes make out of nothing, in order. -/
def ofWrites (writes : List Write) : Registry := writes.foldl perform .empty

variable {registry : Registry} {write : Write} {writes : List Write} {place : Place}
  {side : Side} {kind : EntityKind} {id : Identifier}

theorem ofWrites_concat (writes : List Write) (write : Write) :
    ofWrites (writes ++ [write]) = (ofWrites writes).perform write := by
  rw [ofWrites, List.foldl_append]
  rfl

/-! ### One write -/

/-- After a write, an entity is what the write has left there, if it touches the place. -/
theorem find?_perform :
    ((registry.perform write).side side).find? kind id =
      if write.Touches (.entity side kind id) then write.entity?
      else (registry.side side).find? kind id := by
  cases write with
  | put target entity =>
    have htouches : (Write.put target entity).Touches (.entity side kind id) ↔
        side = target ∧ kind = entity.kind ∧ id = entity.id := by
      simp [Write.Touches, Write.place?, eq_comm]
    simp only [htouches]
    cases target <;> cases side <;>
      simp only [perform, Registry.side, register, addImported, EntityStore.find?_insert,
        Write.entity?, reduceCtorEq, false_and, true_and, if_false]
  | restrict permission => cases side <;> rfl
  | unrestrict action => cases side <;> rfl
  | reset => cases side <;> exact EntityStore.find?_empty

/-- The same holds of restrictions. -/
theorem permission?_perform :
    (registry.perform write).permission? id =
      if write.Touches (.permission id) then write.permission? else registry.permission? id := by
  cases write with
  | put target entity => cases target <;> rfl
  | restrict permission =>
    refine (Table.get?_insert _ _ _ _).trans ?_
    simp [Write.Touches, Write.place?, Write.permission?, permission?, eq_comm]
  | unrestrict action =>
    refine (Table.get?_erase _ _ _).trans ?_
    simp [Write.Touches, Write.place?, Write.permission?, permission?, eq_comm]
  | reset => rfl

/-- A registry is determined by what is found in it. -/
theorem ext_find? {first second : Registry}
    (hentities : ∀ side kind id, (first.side side).find? kind id = (second.side side).find? kind id)
    (hpermissions : ∀ id, first.permission? id = second.permission? id) : first = second := by
  obtain ⟨defined, imported, permissions⟩ := first
  obtain ⟨defined', imported', permissions'⟩ := second
  congr 1
  · exact EntityStore.ext_find? (hentities .defined)
  · exact EntityStore.ext_find? (hentities .imported)
  · exact Table.ext_get? hpermissions

/-! ### The last write to a place -/

/-- The last write to a place: no later one touches the place. -/
def LastWrite (writes : List Write) (place : Place) (write : Write) : Prop :=
  ∃ before after, writes = before ++ write :: after ∧ write.place? = some place ∧
    ∀ later ∈ after, ¬ later.Touches place

theorem LastWrite.place?_eq (h : LastWrite writes place write) : write.place? = some place := by
  obtain ⟨-, -, -, hplace, -⟩ := h
  exact hplace

theorem not_lastWrite_nil : ¬ LastWrite [] place write := by
  rintro ⟨before, after, hwrites, -⟩
  simp at hwrites

/-- After one more write, the last write to a place is this one, or it is the one from before if
the new one does not touch the place. -/
theorem lastWrite_concat_iff {last : Write} :
    LastWrite (writes ++ [last]) place write ↔
      last = write ∧ last.place? = some place ∨
        LastWrite writes place write ∧ ¬ last.Touches place := by
  constructor
  · rintro ⟨before, after, hwrites, hplace, hlater⟩
    rcases List.eq_nil_or_concat after with rfl | ⟨middle, final, rfl⟩
    · obtain ⟨rfl, ⟨⟩⟩ := List.append_inj' hwrites rfl
      exact .inl ⟨rfl, hplace⟩
    · rw [List.concat_eq_append, ← List.cons_append, ← List.append_assoc] at hwrites
      obtain ⟨rfl, ⟨⟩⟩ := List.append_inj' hwrites rfl
      refine .inr ⟨⟨before, middle, rfl, hplace, fun later hmem ↦ hlater later ?_⟩,
        hlater last ?_⟩
      · simp [hmem]
      · simp
  · rintro (⟨rfl, hplace⟩ | ⟨⟨before, after, rfl, hplace, hlater⟩, hnot⟩)
    · exact ⟨writes, [], rfl, hplace, by simp⟩
    · refine ⟨before, after ++ [last], by simp, hplace, fun later hmem ↦ ?_⟩
      rcases List.mem_append.mp hmem with hmem | hmem
      · exact hlater later hmem
      · rw [List.mem_singleton.mp hmem]
        exact hnot

/-- What is seen at a place that only some writes touch is what the last of them has left there. -/
theorem view_ofWrites {α : Type} (view : Registry → Option α) (content : Write → Option α)
    (place : Place) (hempty : view .empty = none)
    (hreset : content .reset = none)
    (hperform : ∀ registry write, view (registry.perform write) =
      if write.Touches place then content write else view registry) (found : α) :
    view (ofWrites writes) = some found ↔
      ∃ write, LastWrite writes place write ∧ content write = some found := by
  induction writes using List.reverseRecOn with
  | nil =>
    refine iff_of_false ?_ fun ⟨write, hlast, _⟩ ↦ not_lastWrite_nil hlast
    rw [ofWrites, List.foldl_nil, hempty]
    simp
  | append_singleton writes last ih =>
    simp only [ofWrites_concat, hperform, lastWrite_concat_iff]
    split_ifs with htouches
    · constructor
      · intro hfound
        rcases htouches with hnone | hplace
        · cases last <;> simp [Write.place?, hreset] at hnone hfound
        · exact ⟨last, .inl ⟨rfl, hplace⟩, hfound⟩
      · rintro ⟨write, ⟨rfl, -⟩ | ⟨-, hnot⟩, hfound⟩
        · exact hfound
        · exact absurd htouches hnot
    · rw [ih]
      refine exists_congr fun write ↦ and_congr_left fun _ ↦ ?_
      constructor
      · exact fun hlast ↦ .inr ⟨hlast, htouches⟩
      · rintro (⟨rfl, hplace⟩ | ⟨hlast, -⟩)
        · exact absurd (.inr hplace) htouches
        · exact hlast

/-- An entity is found where it was put last. -/
theorem find?_ofWrites {entity : Entity} :
    ((ofWrites writes).side side).find? kind id = some entity ↔
      LastWrite writes (.entity side kind id) (.put side entity) := by
  have hempty : (Registry.empty.side side).find? kind id = none := by
    cases side <;> exact EntityStore.find?_empty
  rw [view_ofWrites (fun registry ↦ (registry.side side).find? kind id) Write.entity?
    (.entity side kind id) hempty rfl fun _ _ ↦ find?_perform]
  constructor
  · rintro ⟨write, hlast, hentity⟩
    have hplace := hlast.place?_eq
    cases write <;> cases hentity
    cases hplace
    exact hlast
  · exact fun hlast ↦ ⟨_, hlast, rfl⟩

/-- An action is restricted as it was last. -/
theorem permission?_ofWrites {permission : ActionPermission} :
    (ofWrites writes).permission? id = some permission ↔
      LastWrite writes (.permission id) (.restrict permission) := by
  rw [view_ofWrites (fun registry ↦ registry.permission? id) Write.permission? (.permission id) rfl
    rfl fun _ _ ↦ permission?_perform]
  constructor
  · rintro ⟨write, hlast, hpermission⟩
    cases write <;> cases hpermission
    exact hlast
  · exact fun hlast ↦ ⟨_, hlast, rfl⟩

/-! ### Runs that write the same -/

variable {first second : List Write}

/-- Writes with the same last write to every place make the same registry. -/
theorem ofWrites_congr
    (h : ∀ place write, LastWrite first place write ↔ LastWrite second place write) :
    ofWrites first = ofWrites second := by
  refine ext_find? (fun side kind id ↦ Option.ext fun entity ↦ ?_)
    fun id ↦ Option.ext fun permission ↦ ?_
  · rw [find?_ofWrites, find?_ofWrites, h]
  · rw [permission?_ofWrites, permission?_ofWrites, h]

/-- Writes in another order: neighbours that are to different places have changed places, any number
of times. -/
inductive Reordering : List Write → List Write → Prop
  | refl (writes : List Write) : Reordering writes writes
  | swap {before after : List Write} {first second : Write} (hapart : first.Apart second) :
      Reordering (before ++ first :: second :: after) (before ++ second :: first :: after)
  | trans {first second third : List Write} (hfirst : Reordering first second)
      (hsecond : Reordering second third) : Reordering first third

theorem Write.Apart.not_touches {first second : Write} (h : first.Apart second) (place : Place) :
    ¬ (first.Touches place ∧ second.Touches place) := by
  obtain ⟨target, other, hfirst, hsecond, hne⟩ := h
  simp only [Touches, hfirst, hsecond, reduceCtorEq, false_or, Option.some.injEq]
  rintro ⟨rfl, rfl⟩
  exact hne rfl

theorem Write.Apart.symm {first second : Write} (h : first.Apart second) : second.Apart first := by
  obtain ⟨place, other, hfirst, hsecond, hne⟩ := h
  exact ⟨other, place, hsecond, hfirst, hne.symm⟩

instance : Std.Symm Write.Apart := ⟨fun _ _ ↦ Write.Apart.symm⟩

/-- Writes to different places commute. -/
theorem perform_comm {first second : Write} (h : first.Apart second) (registry : Registry) :
    (registry.perform first).perform second = (registry.perform second).perform first := by
  refine ext_find? (fun side kind id ↦ ?_) fun id ↦ ?_
  · have hnot := h.not_touches (.entity side kind id)
    simp only [find?_perform]
    split_ifs with hsecond hfirst
    · exact absurd ⟨hfirst, hsecond⟩ hnot
    all_goals rfl
  · have hnot := h.not_touches (.permission id)
    simp only [permission?_perform]
    split_ifs with hsecond hfirst
    · exact absurd ⟨hfirst, hsecond⟩ hnot
    all_goals rfl

theorem Reordering.ofWrites_eq (h : Reordering first second) :
    ofWrites first = ofWrites second := by
  induction h with
  | refl => rfl
  | swap hapart =>
    simp only [ofWrites, List.foldl_append, List.foldl_cons, perform_comm hapart]
  | trans _ _ ihfirst ihsecond => exact ihfirst.trans ihsecond

/-- Writes that are all to different places may be put into any order. -/
theorem ofWrites_perm (hapart : first.Pairwise Write.Apart) (hperm : first.Perm second) :
    ofWrites first = ofWrites second := by
  refine hperm.foldl_eq' (fun write hwrite other hother registry ↦ ?_) Registry.empty
  by_cases hsame : write = other
  · rw [hsame]
  · exact perform_comm (hapart.forall hwrite hother hsame) registry

/-! ### Lookups -/

/-- Nothing is found on a side where nothing has been put. -/
theorem find?_ofWrites_eq_none_iff :
    ((ofWrites writes).side side).find? kind id = none ↔
      ∀ write, ¬ LastWrite writes (.entity side kind id) write := by
  rw [Option.eq_none_iff_forall_ne_some]
  simp only [ne_eq, find?_ofWrites]
  constructor
  · intro hnone write hlast
    have hplace := hlast.place?_eq
    cases write <;> cases hplace
    exact hnone _ hlast
  · exact fun hnone entity ↦ hnone _

/-- The side that answers a lookup after writes, with its answer: the defined side if an entity has
been put there, and else the imported one. -/
inductive Answers (writes : List Write) (kind : EntityKind) (id : Identifier) : Side → Entity → Prop
  | defined {entity : Entity}
      (hlast : LastWrite writes (.entity .defined kind id) (.put .defined entity)) :
      Answers writes kind id .defined entity
  | imported {entity : Entity}
      (hnone : ∀ write, ¬ LastWrite writes (.entity .defined kind id) write)
      (hlast : LastWrite writes (.entity .imported kind id) (.put .imported entity)) :
      Answers writes kind id .imported entity

/-- A lookup gives the answer of the side that answers. -/
theorem lookup_ofWrites {entity : Entity} :
    (ofWrites writes).lookup kind id = some entity ↔
      ∃ side, Answers writes kind id side entity := by
  rw [lookup, Option.or_eq_some_iff]
  constructor
  · rintro (hdefined | ⟨hnone, himported⟩)
    · exact ⟨.defined, .defined (find?_ofWrites.mp hdefined)⟩
    · exact ⟨.imported, .imported (find?_ofWrites_eq_none_iff.mp hnone)
        (find?_ofWrites.mp himported)⟩
  · rintro ⟨side, hanswers⟩
    cases hanswers with
    | defined hdefined => exact .inl (find?_ofWrites.mpr hdefined)
    | imported hnone himported =>
      exact .inr ⟨find?_ofWrites_eq_none_iff.mpr hnone, find?_ofWrites.mpr himported⟩

/-- An entity counts as imported when the imported side answers. -/
theorem isImported_ofWrites :
    (ofWrites writes).isImported kind id ↔ ∃ entity, Answers writes kind id .imported entity := by
  rw [isImported, Bool.and_eq_true, Option.isNone_iff_eq_none, Option.isSome_iff_exists]
  constructor
  · rintro ⟨hnone, entity, himported⟩
    exact ⟨entity, .imported (find?_ofWrites_eq_none_iff.mp hnone) (find?_ofWrites.mp himported)⟩
  · rintro ⟨entity, hanswers⟩
    cases hanswers with
    | imported hnone himported =>
      exact ⟨find?_ofWrites_eq_none_iff.mpr hnone, entity, find?_ofWrites.mpr himported⟩

end Registry

/-! ### Snapshots -/

namespace Dump

/-- The ontology that a snapshot lists for one side. -/
def side (dump : Dump) : Side → OntologyDump
  | .defined => dump.ontology
  | .imported => dump.importedOntology

/-- The value types that a snapshot lists for one side. -/
def valueTypesOf (dump : Dump) : Side → Table ValueType
  | .defined => dump.valueTypes
  | .imported => dump.importedValueTypes

/-- The entity that a snapshot lists for one side, under a kind and an identifier. -/
def entity? (dump : Dump) (side : Side) (kind : EntityKind) (id : Identifier) : Option Entity :=
  match kind with
  | .sharedPropertyType => ((dump.side side).sharedPropertyTypes.get? id).map .sharedPropertyType
  | .interfaceType => ((dump.side side).interfaceTypes.get? id).map .interfaceType
  | .objectType => ((dump.side side).objectTypes.get? id).map (.objectType ·.type)
  | .actionType => ((dump.side side).actionTypes.get? id).map .actionType
  | .valueType => ((dump.valueTypesOf side).get? id).map .valueType

end Dump

namespace Registry

variable {registry : Registry} {side : Side} {kind : EntityKind} {id : Identifier}
  {key : Option String}

theorem objectTypes_dump :
    ((registry.dump key).side side).objectTypes.get? id =
      ((registry.side side).objectTypes.get? id).map .ofType := by
  cases side <;> exact Table.get?_map _ _ _

/-- A snapshot lists what is found in the registry. -/
theorem entity?_dump :
    (registry.dump key).entity? side kind id = (registry.side side).find? kind id := by
  cases kind with
  | objectType =>
    rw [Dump.entity?, objectTypes_dump, Option.map_map]
    rfl
  | sharedPropertyType | interfaceType | actionType | valueType => cases side <;> rfl

/-- The columns that a snapshot lists are the properties of the object type. -/
theorem columns_dump {dumped : DumpedObject}
    (h : ((registry.dump key).side side).objectTypes.get? id = some dumped) :
    dumped.columns = dumped.type.propertyNames.map fun name ↦ ⟨name, name⟩ := by
  rw [objectTypes_dump, Option.map_eq_some_iff] at h
  obtain ⟨object, -, rfl⟩ := h
  rfl

/-- After any writes, lookups and snapshots go by the last write to each place. So writes that have
the same last ones give the same snapshot, whatever their order. -/
theorem lookup_dump_ofWrites (writes : List Write) :
    (∀ kind id entity, (ofWrites writes).lookup kind id = some entity ↔
      ∃ side, Answers writes kind id side entity) ∧
    (∀ kind id, (ofWrites writes).isImported kind id ↔
      ∃ entity, Answers writes kind id .imported entity) ∧
    (∀ key side kind id entity,
      ((ofWrites writes).dump key).entity? side kind id = some entity ↔
        LastWrite writes (.entity side kind id) (.put side entity)) ∧
    (∀ key side id dumped,
      (((ofWrites writes).dump key).side side).objectTypes.get? id = some dumped →
        dumped.columns = dumped.type.propertyNames.map fun name ↦ ⟨name, name⟩) ∧
    (∀ key id permission,
      ((ofWrites writes).dump key).actionPermissions.get? id = some permission ↔
        LastWrite writes (.permission id) (.restrict permission)) ∧
    (∀ others, (∀ place write, LastWrite writes place write ↔ LastWrite others place write) →
      ∀ key, (ofWrites writes).dump key = (ofWrites others).dump key) ∧
    (∀ others, Reordering writes others →
      ∀ key, (ofWrites writes).dump key = (ofWrites others).dump key) ∧
    ∀ others, writes.Pairwise Write.Apart → writes.Perm others →
      ∀ key, (ofWrites writes).dump key = (ofWrites others).dump key := by
  refine ⟨fun kind id entity ↦ lookup_ofWrites, fun kind id ↦ isImported_ofWrites,
    fun key side kind id entity ↦ ?_, fun key side id dumped ↦ columns_dump,
    fun key id permission ↦ permission?_ofWrites, fun others hsame key ↦ ?_,
    fun others hreordered key ↦ ?_, fun others hapart hperm key ↦ ?_⟩
  · rw [entity?_dump]
    exact find?_ofWrites
  · rw [ofWrites_congr hsame]
  · rw [hreordered.ofWrites_eq]
  · rw [ofWrites_perm hapart hperm]

/-- Two object types give one snapshot in either order, and also when the first of them has been
there before. -/
theorem dump_ofWrites_things :
    let first : Write := .put .defined (.objectType (Fixture.thing ⟨"com.example.a"⟩))
    let second : Write := .put .defined (.objectType (Fixture.thing ⟨"com.example.b"⟩))
    (ofWrites [first, second]).dump none = (ofWrites [second, first]).dump none ∧
      (ofWrites [second, first]).dump none = (ofWrites [first, second, first]).dump none := by
  intro first second
  have hapart : first.Apart second := ⟨_, _, rfl, rfl, by decide⟩
  have hsame (place : Place) (write : Write) :
      LastWrite [second, first] place write ↔ LastWrite [first, second, first] place write := by
    have htouches : first.place? = some place → first.Touches place := .inr
    change LastWrite (([] ++ [second]) ++ [first]) place write ↔
      LastWrite ((([] ++ [first]) ++ [second]) ++ [first]) place write
    simp only [lastWrite_concat_iff]
    tauto
  obtain ⟨-, -, -, -, -, -, -, hpermuted⟩ := lookup_dump_ofWrites [first, second]
  obtain ⟨-, -, -, -, -, hoverwritten, -, -⟩ := lookup_dump_ofWrites [second, first]
  exact ⟨hpermuted _ (by simpa using hapart) (.swap _ _ _) none, hoverwritten _ hsame none⟩

end Registry

end Ontology
