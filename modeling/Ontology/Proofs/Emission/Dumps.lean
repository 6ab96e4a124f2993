import Ontology.Proofs.Emission.Actions
import Ontology.Scenario.Fixture

/-!
What the JSON form of a dump keeps: everything. Two dumps with the same JSON value are the same, one
of them having finite doubles only (`Dump.toJson_lossless`). So no tag, no field name and no
convention for what is missing ever stands for two things, and dumps may be compared by their JSON.

Nothing is said here of how numbers and strings are written. JSON values are compared as data, with
doubles and strings as leaves.
-/

set_option autoImplicit false
set_option relaxedAutoImplicit false

namespace Ontology

open Json

/-! ### Entities that describe data -/

@[simp] theorem SharedPropertyType.same_toJson_iff {first second : SharedPropertyType} :
    first.toJson.Same second.toJson ↔ first = second := by
  cases first
  cases second
  simp [toJson]

@[simp] theorem ValueType.same_toJson_iff {first second : ValueType} :
    first.toJson.Same second.toJson ↔ first = second := by
  cases first
  cases second
  simp [toJson]

@[simp] theorem InterfaceProperty.same_toJson_iff {first second : InterfaceProperty} :
    first.toJson.Same second.toJson ↔ first = second := by
  cases first <;> cases second <;> simp [toJson]

@[simp] theorem InterfaceType.same_toJson_iff {first second : InterfaceType} :
    first.toJson.Same second.toJson ↔ first = second := by
  cases first
  cases second
  simp [toJson]

@[simp] theorem ObjectProperty.same_toJson_iff {first second : ObjectProperty} :
    first.toJson.Same second.toJson ↔ first = second := by
  cases first
  cases second
  simp [toJson]

@[simp] theorem PropertyMapping.same_toJson_iff {first second : PropertyMapping} :
    first.toJson.Same second.toJson ↔ first = second := by
  cases first
  cases second
  simp [toJson]

@[simp] theorem Implementation.same_toJson_iff {first second : Implementation} :
    first.toJson.Same second.toJson ↔ first = second := by
  cases first
  cases second
  simp [toJson]

@[simp] theorem Column.same_toJson_iff {first second : Column} :
    first.toJson.Same second.toJson ↔ first = second := by
  cases first
  cases second
  simp [toJson]

@[simp] theorem Column.same_sourceToJson_iff {first second : List Column} :
    (sourceToJson first).Same (sourceToJson second) ↔ first = second := by
  simp [sourceToJson]

/-- The data source stands beside the fields of the object type and under a name of its own. -/
@[simp] theorem DumpedObject.same_toJson_iff {first second : DumpedObject} :
    first.toJson.Same second.toJson ↔ first = second := by
  obtain ⟨⟨⟩, columns⟩ := first
  obtain ⟨⟨⟩, others⟩ := second
  simp [toJson, ObjectType.fields, and_assoc]

@[simp] theorem ActionPermission.same_toJson_iff {first second : ActionPermission} :
    first.toJson.Same second.toJson ↔ first = second := by
  cases first
  cases second
  simp [toJson]

/-! ### Dumps -/

namespace OntologyDump

/-- The literals of the actions in one side of a dump. -/
def literals (dump : OntologyDump) : List Literal :=
  dump.actionTypes.entries.flatMap (·.2.literals)

theorem determines_toJson {dump : OntologyDump} (h : ∀ value ∈ dump.literals, value.IsFinite) :
    Determines toJson dump := by
  have hactions : ∀ entry ∈ dump.actionTypes.entries, Determines ActionType.toJson entry.2 :=
    fun entry hmem ↦ ActionType.determines_toJson (List.forall_mem_flatMap.mp h entry hmem)
  intro other
  cases dump
  cases other
  simp [toJson, same_table_iff hactions]

end OntologyDump

namespace Dump

/-- All doubles of a dump. -/
def doubles (dump : Dump) : List Float :=
  (dump.ontology.literals ++ dump.importedOntology.literals).flatMap (·.doubles)

/-- A dump with finite doubles is determined by its JSON value, among all dumps. -/
theorem toJson_lossless {first second : Dump} (h : ∀ value ∈ first.doubles, value.isFinite) :
    first.toJson.Same second.toJson ↔ first = second := by
  obtain ⟨hlocal, himported⟩ := List.forall_mem_append.mp (List.forall_mem_flatMap.mp h)
  have hlocal := OntologyDump.determines_toJson hlocal
  have himported := OntologyDump.determines_toJson himported
  cases first
  cases second
  simp [toJson, hlocal.same_iff, himported.same_iff]

end Dump

/-- The snapshot of a session with tickets and an action that creates them. The estimate of a new
ticket starts at some number of days. -/
def Fixture.estimatedTicket (days : Float) : Dump :=
  let action : CrudDraft :=
    { kind := .create
      target := .object (.auto "ticket")
      configuration := [("estimate", { prefilled := some (.literal (.double days)) })] }
  (registry (ticket ++ [.generatedAction action])).dump none

namespace Dump

/-- Two snapshots that differ in one double have different JSON values. -/
theorem toJson_lossless_estimatedTicket :
    (∀ value ∈ (Fixture.estimatedTicket 0.5).doubles, value.isFinite) ∧
      ¬ (Fixture.estimatedTicket 0.5).toJson.Same (Fixture.estimatedTicket 0.25).toJson := by
  have hfinite : ∀ value ∈ (Fixture.estimatedTicket 0.5).doubles, value.isFinite := by
    decide +kernel
  refine ⟨hfinite, fun hsame ↦ ?_⟩
  have hequal := (toJson_lossless hfinite).mp hsame
  have hdoubles : (Fixture.estimatedTicket 0.5).doubles.map (·.toBits) ≠
      (Fixture.estimatedTicket 0.25).doubles.map (·.toBits) := by
    decide +kernel
  exact hdoubles (by rw [hequal])

end Dump

end Ontology
