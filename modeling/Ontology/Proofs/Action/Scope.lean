import Ontology.Proofs.Lookup
import Ontology.Proofs.Outcome
import Ontology.Action.Scope

/-!
What the checks on ids accept. A scope declares the ids that it lists, and where these are distinct
it gives each the type that stands beside it. `checkOrdering_eq_ok_iff` says which orderings pass:
those that hold the expected ids and no others, each once. References that are not declared are
reported together, in the order in which they are first mentioned (`firstMentions_undeclared`).
-/

set_option autoImplicit false
set_option relaxedAutoImplicit false

namespace Ontology

/-! ### Declared parameters -/

namespace Scope

variable {scope : Scope} {id : String} {type : ParameterType}

theorem declares_iff : scope.declares id ↔ id ∈ scope.declarations.map (·.1) := by
  rw [declares, type?, Option.isSome_map, List.find?_isSome, List.mem_map]
  simp

theorem declares_of_type? (h : scope.type? id = some type) : scope.declares id := by
  rw [declares, h, Option.isSome_some]

/-- Under distinct ids, every declaration is the one that counts. -/
theorem type?_eq_some (hdistinct : (scope.declarations.map (·.1)).Nodup)
    (hmem : (id, type) ∈ scope.declarations) : scope.type? id = some type := by
  have hfound : scope.declarations.reverse.find? (·.1 = id) = some (id, type) :=
    Lookup.find?_reverse_eq_some hdistinct hmem
  rw [type?, hfound, Option.map_some]

theorem require_eq_ok_iff {role : TargetRole} :
    scope.require id role = .ok type ↔ scope.type? id = some type := by
  unfold require
  split <;> simp_all

theorem declares_of_require {role : TargetRole} (h : scope.require id role = .ok type) :
    scope.declares id :=
  declares_of_type? (require_eq_ok_iff.mp h)

end Scope

/-! ### References, repetitions and orderings -/

variable {expected earlier ordering ids : List String}

/-- References pass when all of them are declared. -/
theorem checkDeclared_eq_ok_iff {declared : String → Bool} {referenced : List String} :
    checkDeclared declared referenced = .ok () ↔ ∀ id ∈ referenced, declared id := by
  have hnil : undeclared declared referenced = [] ↔ ∀ id ∈ referenced, declared id := by
    simp [undeclared, List.eq_nil_iff_forall_not_mem, List.mem_eraseDups]
  unfold checkDeclared
  split <;> simp_all

/-- The ids with a property among those that are mentioned, each once and in the order of their
first mention. -/
structure FirstMentions (mentions : List String) (p : String → Prop) (ids : List String) :
    Prop where
  mem_iff : ∀ id, id ∈ ids ↔ id ∈ mentions ∧ p id
  once : ids.Nodup
  ordered : ids.Pairwise fun earlier later ↦ mentions.idxOf earlier < mentions.idxOf later

section Undeclared

variable {declared : String → Bool} {referenced : List String} {id other : String}

theorem mem_undeclared_iff :
    id ∈ undeclared declared referenced ↔ id ∈ referenced ∧ ¬ declared id := by
  simp [undeclared, List.mem_eraseDups]

theorem ne_of_mem_undeclared (hid : declared id) (hother : other ∈ undeclared declared referenced) :
    id ≠ other := by
  rintro rfl
  exact (mem_undeclared_iff.mp hother).2 hid

/-- A reference that is reported counts as declared for those behind it. -/
theorem undeclared_cons :
    undeclared declared (id :: referenced) =
      if declared id then undeclared declared referenced
      else id :: undeclared (fun other ↦ declared other || other == id) referenced := by
  unfold undeclared
  split_ifs with hdeclared
  · rw [List.filter_cons_of_neg (by simpa using hdeclared)]
  · rw [List.filter_cons_of_pos (by simpa using hdeclared), List.eraseDups_cons,
      List.filter_filter]
    simp only [Bool.not_or, Bool.and_comm]

/-- What is reported first has been mentioned first. -/
theorem pairwise_undeclared (declared : String → Bool) (referenced : List String) :
    (undeclared declared referenced).Pairwise fun earlier later ↦
      referenced.idxOf earlier < referenced.idxOf later := by
  induction referenced generalizing declared with
  | nil => exact .nil
  | cons id rest ih =>
    -- Behind the first reference the positions of all others move by one.
    have hshift {declared : String → Bool} (hid : declared id) :
        (undeclared declared rest).Pairwise fun earlier later ↦
          (id :: rest).idxOf earlier < (id :: rest).idxOf later := by
      refine (ih declared).imp_of_mem fun hearlier hlater hless ↦ ?_
      rw [List.idxOf_cons_ne rest (ne_of_mem_undeclared hid hearlier),
        List.idxOf_cons_ne rest (ne_of_mem_undeclared hid hlater)]
      exact Nat.succ_lt_succ hless
    rw [undeclared_cons]
    split_ifs with hdeclared
    · exact hshift hdeclared
    · have hid : declared id || id == id := by simp
      refine .cons (fun later hlater ↦ ?_) (hshift hid)
      rw [List.idxOf_cons_self, List.idxOf_cons_ne rest (ne_of_mem_undeclared hid hlater)]
      exact Nat.succ_pos _

theorem firstMentions_undeclared (declared : String → Bool) (referenced : List String) :
    FirstMentions referenced (¬ declared ·) (undeclared declared referenced) where
  mem_iff _ := mem_undeclared_iff
  once := (pairwise_undeclared declared referenced).imp fun hless hsame ↦
    Nat.ne_of_lt hless (congrArg referenced.idxOf hsame)
  ordered := pairwise_undeclared declared referenced

/-- As soon as one reference is not declared, all such references are the error. -/
theorem checkDeclared_eq_error (h : ∃ id ∈ referenced, ¬ declared id) :
    checkDeclared declared referenced =
      .error (.undefinedParameters (undeclared declared referenced)) := by
  obtain ⟨id, hid, hdeclared⟩ := h
  have hmem : id ∈ undeclared declared referenced := mem_undeclared_iff.mpr ⟨hid, hdeclared⟩
  unfold checkDeclared
  split
  · next hnil =>
    rw [hnil] at hmem
    cases hmem
  · next hcons => rw [hcons]

end Undeclared

/-- Ids repeat neither each other nor an earlier one. -/
def Fresh (earlier ids : List String) : Prop :=
  ids.Nodup ∧ ∀ id ∈ ids, id ∉ earlier

section Fresh

variable {first rest : List String} {id : String}

theorem fresh_nil_iff : Fresh [] ids ↔ ids.Nodup := by
  simp [Fresh]

theorem fresh_cons_iff :
    Fresh earlier (id :: rest) ↔ id ∉ earlier ∧ Fresh (id :: earlier) rest := by
  unfold Fresh
  rw [List.nodup_cons]
  grind

/-- Ids are fresh in groups, each after the ones before it. -/
theorem fresh_append_iff :
    Fresh earlier (first ++ rest) ↔
      Fresh earlier first ∧ Fresh (first.reverse ++ earlier) rest := by
  induction first generalizing earlier with
  | nil => simp [Fresh]
  | cons id first ih =>
    rw [List.cons_append, fresh_cons_iff, ih, fresh_cons_iff, and_assoc, List.reverse_cons,
      List.append_assoc, List.singleton_append]

end Fresh

/-- Ids pass when they repeat neither each other nor an earlier one. -/
theorem checkDistinct_eq_ok_iff :
    checkDistinct earlier ids = .ok () ↔ ids.Nodup ∧ ∀ id ∈ ids, id ∉ earlier := by
  induction ids generalizing earlier with
  | nil => simp [checkDistinct]
  | cons id rest ih =>
    rw [checkDistinct, List.nodup_cons]
    split_ifs with h
    · simp [h]
    · rw [ih]
      grind

/-- An ordering has no extraneous entry when all are expected and none repeats an earlier one. -/
theorem extraneousEntries_eq_nil_iff :
    extraneousEntries expected earlier ordering = [] ↔
      ordering.Nodup ∧ ∀ id ∈ ordering, id ∈ expected ∧ id ∉ earlier := by
  induction ordering generalizing earlier with
  | nil => simp [extraneousEntries]
  | cons id rest ih =>
    rw [extraneousEntries, List.nodup_cons]
    split_ifs with h
    · grind
    · rw [ih]
      grind

theorem missingEntries_eq_nil_iff :
    missingEntries expected ordering = [] ↔ ∀ id ∈ expected, id ∈ ordering := by
  rw [missingEntries, List.filter_eq_nil_iff]
  simp

/-- An ordering passes when it holds the expected ids and no others, each once. -/
theorem checkOrdering_eq_ok_iff {action : Identifier} :
    checkOrdering action expected ordering = .ok () ↔
      ordering.Nodup ∧ ∀ id, id ∈ ordering ↔ id ∈ expected := by
  have hextraneous : extraneousEntries expected [] ordering = [] ↔ _ :=
    extraneousEntries_eq_nil_iff
  have hmissing : missingEntries expected ordering = [] ↔ _ := missingEntries_eq_nil_iff
  unfold checkOrdering
  split <;> grind

/-- The ordering that applies is the expected one, or the one that is asked for if it passes. -/
theorem resolveOrdering_eq_ok_iff {action : Identifier} {requested : Option (List String)} :
    resolveOrdering action expected requested = .ok ordering ↔
      (requested = none ∧ ordering = expected) ∨
        (requested = some ordering ∧ ordering.Nodup ∧ ∀ id, id ∈ ordering ↔ id ∈ expected) := by
  cases requested with
  | none => simp [resolveOrdering, eq_comm]
  | some requested =>
    simp only [resolveOrdering, Outcome.bind_eq_ok_iff, Outcome.pure_eq_ok_iff, exists_and_right,
      Outcome.exists_unit_eq_ok_iff, checkOrdering_eq_ok_iff]
    constructor
    · rintro ⟨hpass, rfl⟩
      exact .inr ⟨rfl, hpass⟩
    · rintro (⟨hnone, -⟩ | ⟨hsome, hpass⟩)
      · cases hnone
      · cases hsome
        exact ⟨hpass, rfl⟩

/-- Whether it is asked for or not, an ordering holds the expected ids and no others. -/
theorem mem_iff_of_resolveOrdering {action : Identifier} {requested : Option (List String)}
    (h : resolveOrdering action expected requested = .ok ordering) (id : String) :
    id ∈ ordering ↔ id ∈ expected := by
  rcases resolveOrdering_eq_ok_iff.mp h with ⟨-, rfl⟩ | ⟨-, -, hmem⟩
  · exact Iff.rfl
  · exact hmem id

end Ontology
