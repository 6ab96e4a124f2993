import Ontology.Proofs.Action.Drafts
import Ontology.Proofs.Action.FixedValues
import Ontology.Proofs.Typing.Literals

/-!
Which integers rules write to the properties of fewer than 64 bits. A literal is checked against the
type of the parameters for its property, and properties of one, two and four bytes share the
parameters for integers. So what compiles fits into 32 bits, in literals for such properties as in
nested lists for arrays of them (`compile_integers`). For properties of four bytes that is the range
of the property; one of fewer bytes may be given an integer that it does not hold
(`not_forall_integersFit`).
-/

set_option autoImplicit false
set_option relaxedAutoImplicit false

namespace Ontology

open Outcome

variable {registry : Registry} {scope : Scope} {key : String}

/-! ### Literals -/

/-- The integers in a literal that stand for values of one scalar type have a number of bits. They
stand on their own, or in a list as deep as the type is nested. -/
def Literal.IntegersFit (type : ScalarType) (bits : Nat) : PropertyType → Literal → Prop
  | .scalar actual, .integer value => actual = type → FitsSigned bits value
  | .array item, .list values => ∀ value ∈ values, IntegersFit type bits item value
  | _, _ => True

/-- Where parameters for integers stand in for a scalar type, what they admit has 32 bits. -/
theorem Literal.integersFit_of_admits {scalar : ScalarType} {type : PropertyType}
    {expected : ParameterType} {value : Literal} (hscalar : scalar.parameterType? = some .integer)
    (hexpected : type.parameterType? = some expected) (hadmits : expected.admits value) :
    value.IntegersFit scalar 32 type := by
  induction type using PropertyType.parameterType?.induct generalizing expected value with
  | case1 actual =>
    cases value with
    | integer value =>
      rintro rfl
      rw [PropertyType.parameterType?, hscalar] at hexpected
      cases hexpected
      exact fitsInt32_iff.mp hadmits
    | _ => trivial
  | case2 fields => cases value <;> trivial
  | case3 item ih =>
    cases value with
    | list values =>
      obtain ⟨inner, hinner, rfl⟩ := Option.map_eq_some_iff.mp hexpected
      rw [ParameterType.admits, List.all_eq_true] at hadmits
      exact fun value hvalue ↦ ih hinner (hadmits value hvalue)
    | _ => trivial

/-! ### Compiled actions -/

namespace ActionDefinition

variable {definition : ActionDefinition} {compiled : CompiledAction}

/-- The literals in the rules of a compiled action have the types of the properties that they are
bound to. -/
theorem admits_of_compile (h : definition.compile registry = .ok compiled) {rule : Rule}
    (hrule : rule ∈ compiled.actionType.logic) {value : Literal}
    (hbound : (key, .literal value) ∈ rule.bindings) :
    ∃ owner, definition.owner? compiled.actionType.parameterScope rule = some owner ∧
      registry.Admits owner key value := by
  obtain ⟨elaboration, helaborate, hlogic, hscope⟩ := exists_scope_of_compile h
  rw [hscope]
  exact admits_of_elaborate helaborate (hlogic ▸ hrule) hbound

/-- What the rules of an action write to properties of a scalar type, or of arrays of it, has a
number of bits. -/
def IntegersFit (registry : Registry) (definition : ActionDefinition) (action : ActionType)
    (type : ScalarType) (bits : Nat) : Prop :=
  ∀ rule ∈ action.logic, ∀ key value, (key, .literal value) ∈ rule.bindings →
    ∃ owner written, definition.owner? action.parameterScope rule = some owner ∧
      registry.propertyType owner key = .ok written ∧ value.IntegersFit type bits written

end ActionDefinition

/-- An object `sensor` with a level of one byte and short numbers in batches. -/
def Fixture.sensor : List Definition :=
  [.objectType
    { name := .auto "sensor"
      primaryKey := some "code"
      properties :=
        [property "code" text, property "level" (.scalar .byte),
          property "batches" (.array (.array (.scalar .short)))] }]

/-- An action that creates a sensor at some level, which is its one reading as well. -/
def Fixture.calibrate (level : Int64) : CrudDefinition where
  id := ⟨"com.example.calibrate"⟩
  kind := .create
  target := .object ⟨"com.example.sensor"⟩
  fixedValues :=
    [("level", .literal (.integer level)),
      ("batches", .literal (.list [.list [], .list [.integer level]]))]

namespace ActionDefinition

variable {definition : ActionDefinition} {compiled : CompiledAction}

/-- The properties of a sensor have the types that they are declared with. -/
theorem propertyType_sensor :
    (Fixture.registry Fixture.sensor).propertyType (.object ⟨"com.example.sensor"⟩) "level" =
        .ok (.scalar .byte) ∧
      (Fixture.registry Fixture.sensor).propertyType (.object ⟨"com.example.sensor"⟩) "batches" =
        .ok (.array (.array (.scalar .short))) := by
  obtain ⟨hlevel, hbatches⟩ :
      ((Fixture.registry Fixture.sensor).propertyType (.object ⟨"com.example.sensor"⟩)
        "level").toOption.map (fun type ↦ type) = some (.scalar .byte) ∧
      ((Fixture.registry Fixture.sensor).propertyType (.object ⟨"com.example.sensor"⟩)
        "batches").toOption.map (fun type ↦ type) = some (.array (.array (.scalar .short))) := by
    decide +kernel
  obtain ⟨_, hlevel, rfl⟩ := exists_of_toOption_map hlevel
  obtain ⟨_, hbatches, rfl⟩ := exists_of_toOption_map hbatches
  exact ⟨hlevel, hbatches⟩

/-- What is fixed when a sensor is calibrated is written to it, and has the bits that all integers
of the action have. -/
theorem integersFit_calibrate {level : Int64} {type : ScalarType} {bits : Nat}
    (h : (generated (Fixture.calibrate level)).compile (Fixture.registry Fixture.sensor) =
      .ok compiled)
    (hfit : (generated (Fixture.calibrate level)).IntegersFit (Fixture.registry Fixture.sensor)
      compiled.actionType type bits) :
    ∃ rule ∈ compiled.actionType.logic,
      (("level", .literal (.integer level)) ∈ rule.bindings ∧
        (Literal.integer level).IntegersFit type bits (.scalar .byte)) ∧
      ("batches", .literal (.list [.list [], .list [.integer level]])) ∈ rule.bindings ∧
        (Literal.list [.list [], .list [.integer level]]).IntegersFit type bits
          (.array (.array (.scalar .short))) := by
  obtain ⟨rule, hlogic, hbound⟩ := CrudDefinition.mem_bindings_iff_of_fixed h
  have hrule : rule ∈ compiled.actionType.logic := hlogic ▸ List.mem_singleton_self rule
  have hkind : (Fixture.calibrate level).kind ≠ .delete := nofun
  have hlevel : ("level", .literal (.integer level)) ∈ rule.bindings :=
    (hbound "level" List.mem_cons_self _).mpr ⟨hkind, [], _, rfl, List.not_mem_nil⟩
  have hbatches :
      ("batches", .literal (.list [.list [], .list [.integer level]])) ∈ rule.bindings :=
    (hbound "batches" (List.mem_cons_of_mem _ List.mem_cons_self) _).mpr
      ⟨hkind, [_], _, rfl, by simp⟩
  have hwritten {key : String} {written : PropertyType} {value : Literal}
      (htype : (Fixture.registry Fixture.sensor).propertyType (.object ⟨"com.example.sensor"⟩)
        key = .ok written)
      (hmem : (key, .literal value) ∈ rule.bindings) : value.IntegersFit type bits written := by
    obtain ⟨owner, actual, howner, hactual, hvalue⟩ := hfit rule hrule key value hmem
    cases howner
    cases htype.symm.trans hactual
    exact hvalue
  exact ⟨rule, hrule, ⟨hlevel, hwritten propertyType_sensor.1 hlevel⟩, hbatches,
    hwritten propertyType_sensor.2 hbatches⟩

/-- The integers that a compiled action writes to properties of one, two or four bytes, or in lists
to arrays of them, have 32 bits. -/
theorem compile_integers (h : definition.compile registry = .ok compiled) :
    ∀ type ∈ [ScalarType.byte, .short, .integer],
      definition.IntegersFit registry compiled.actionType type 32 := by
  intro type htype rule hrule key value hbound
  have hparameter : type.parameterType? = some .integer := by
    simp only [List.mem_cons, List.not_mem_nil, or_false] at htype
    rcases htype with rfl | rfl | rfl <;> rfl
  obtain ⟨owner, howner, written, expected, hwritten, hexpected, hadmits⟩ :=
    admits_of_compile h hrule hbound
  exact ⟨owner, written, howner, hwritten,
    Literal.integersFit_of_admits hparameter hexpected hadmits⟩

/-- A sensor is calibrated to a level of more than 8 bits, and to one of more than 16. -/
theorem compile_calibrate :
    ((generated (Fixture.calibrate 200)).compile
      (Fixture.registry Fixture.sensor)).toOption.map (fun _ ↦ ()) = some () ∧
    ((generated (Fixture.calibrate 40000)).compile
      (Fixture.registry Fixture.sensor)).toOption.map (fun _ ↦ ()) = some () := by
  decide +kernel

/-- A level of 200 is written to one byte of a sensor, and a reading of 200 in a list to two. -/
theorem compile_integers_calibrate :
    ∃ compiled, (generated (Fixture.calibrate 200)).compile (Fixture.registry Fixture.sensor) =
        .ok compiled ∧
      (∃ rule ∈ compiled.actionType.logic,
        ("level", .literal (.integer 200)) ∈ rule.bindings ∧
          (Literal.integer 200).IntegersFit .byte 32 (.scalar .byte)) ∧
      ∃ rule ∈ compiled.actionType.logic,
        ("batches", .literal (.list [.list [], .list [.integer 200]])) ∈ rule.bindings ∧
          (Literal.list [.list [], .list [.integer 200]]).IntegersFit .short 32
            (.array (.array (.scalar .short))) := by
  obtain ⟨compiled, hcompile, -⟩ := exists_of_toOption_map compile_calibrate.1
  have hfit := compile_integers hcompile
  obtain ⟨first, hfirst, hlevel, -⟩ :=
    integersFit_calibrate hcompile (hfit .byte List.mem_cons_self)
  obtain ⟨second, hsecond, -, hbatches⟩ :=
    integersFit_calibrate hcompile (hfit .short (by simp))
  exact ⟨compiled, hcompile, ⟨first, hfirst, hlevel⟩, second, hsecond, hbatches⟩

/-- A level of 40000 is written to one byte, and a reading of 40000 in a list to two. -/
theorem not_forall_integersFit :
    (¬ ∀ (registry : Registry) (definition : ActionDefinition) (compiled : CompiledAction),
      definition.compile registry = .ok compiled →
        definition.IntegersFit registry compiled.actionType .byte 8) ∧
    ¬ ∀ (registry : Registry) (definition : ActionDefinition) (compiled : CompiledAction),
      definition.compile registry = .ok compiled →
        definition.IntegersFit registry compiled.actionType .short 16 := by
  obtain ⟨compiled, hcompile, -⟩ := exists_of_toOption_map compile_calibrate.2
  refine ⟨fun hall ↦ ?_, fun hall ↦ ?_⟩
  · obtain ⟨-, -, ⟨-, hlevel⟩, -⟩ := integersFit_calibrate hcompile (hall _ _ _ hcompile)
    exact absurd (hlevel rfl) (by decide)
  · obtain ⟨-, -, -, -, hbatches⟩ := integersFit_calibrate hcompile (hall _ _ _ hcompile)
    have hreading : (Literal.integer 40000).IntegersFit .short 16 (.scalar .short) :=
      hbatches (.list [.integer 40000]) (by simp) (.integer 40000) (by simp)
    exact absurd (hreading rfl) (by decide)

end ActionDefinition

end Ontology
