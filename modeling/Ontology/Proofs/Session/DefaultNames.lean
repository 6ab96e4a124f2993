import Ontology.Proofs.Naming.Qualification
import Ontology.Proofs.Session.Restrictions
import Mathlib.Data.Fintype.Basic

/-!
Generated actions that have no name of their own. Such an action goes by words for its kind and for
the sort of its target, and by the local name of the target in kebab case. The words can be told
apart from whatever follows them (`CrudKind.opening_unique`), and the namespace keeps different
names apart. So two such actions share an identifier exactly when they agree on the kind and the
sort of target and the local names have one kebab case (`CrudDraft.actionId_eq_iff`); neither the
namespaces of the targets nor the difference between a capital, an underscore and a hyphen matter.

An action stays as it is, with its restriction, until the session is reset or an action is defined
under its identifier (`Session.sameAt_performAll`). `Session.defaultActions_kept` puts both
together: actions whose default names differ do not get in each other's way, and otherwise the later
one takes the place of the earlier one, as `Session.not_forall_defaultActions_apart` shows for two
tickets from different namespaces.
-/

set_option autoImplicit false
set_option relaxedAutoImplicit false

namespace Ontology

open Outcome

/-! ### Kebab case and dots -/

theorem toLower_ne_dot {c : Char} (h : c.isUpper) : c.toLower ≠ '.' := by
  have hupper : 'A'.val ≤ c.val ∧ c.val ≤ 'Z'.val := of_decide_eq_true h
  have hlower : c.toLower.val = c.val + ('a'.val - 'A'.val) := congrArg Char.val (dif_pos hupper)
  obtain ⟨hfirst, hlast⟩ := hupper
  intro hdot
  rw [hdot] at hlower
  rw [UInt32.le_iff_toNat_le] at hfirst hlast
  have hcode : 46 = (c.val.toNat + 32) % 2 ^ 32 := congrArg UInt32.toNat hlower
  have hbounds : 65 ≤ c.val.toNat ∧ c.val.toNat ≤ 90 := ⟨hfirst, hlast⟩
  omega

theorem kebabHead_ne_dot {c : Char} (h : c ≠ '.') : kebabHead c ≠ '.' := by
  unfold kebabHead
  split_ifs with hupper
  · exact toLower_ne_dot hupper
  · decide
  · exact h

theorem not_dot_kebabTail {c : Char} (h : c ≠ '.') : '.' ∉ kebabTail c := by
  unfold kebabTail
  split_ifs with hupper
  · simpa using (toLower_ne_dot hupper).symm
  · decide
  · simpa using h.symm

/-- Kebab case brings in no dots. -/
theorem not_dot_kebabCase {name : String} (h : '.' ∉ name.toList) :
    '.' ∉ (kebabCase name).toList := by
  unfold kebabCase
  split
  · decide
  · next first rest hname =>
    rw [hname] at h
    obtain ⟨hfirst, hrest⟩ := not_or.mp (List.mem_cons.not.mp h)
    rw [String.toList_ofList, List.mem_cons, List.mem_flatMap]
    rintro (hdot | ⟨c, hc, hdot⟩)
    · exact kebabHead_ne_dot (Ne.symm hfirst) hdot.symm
    · exact not_dot_kebabTail (fun heq ↦ hrest (heq ▸ hc)) hdot

/-! ### Default names -/

instance : Fintype CrudKind where
  elems := {.create, .modify, .delete, .createOrModify}
  complete kind := by cases kind <;> decide

/-- The words with which a default name opens. -/
def CrudKind.opening (kind : CrudKind) (isInterface : Bool) : List Char :=
  (kind.apiWords ++ "-" ++ (if isInterface then "interface-object" else "object") ++ "-").toList

/-- No opening is part of another one, so it can be told where the opening of a name ends. -/
theorem CrudKind.opening_unique : ∀ (kind other : CrudKind) (isInterface otherIsInterface : Bool),
    kind.opening isInterface <+: other.opening otherIsInterface →
      kind = other ∧ isInterface = otherIsInterface := by
  decide +kernel

namespace CrudTarget

variable {target other : CrudTarget} {kind otherKind : CrudKind}

theorem toList_defaultApiName :
    (target.defaultApiName kind).toList =
      kind.opening target.isInterface ++ (kebabCase target.id.localName).toList := by
  have hwords : target.apiWords = if target.isInterface then "interface-object" else "object" := by
    cases target <;> rfl
  rw [defaultApiName, hwords, CrudKind.opening, String.toList_append]

/-- Default names agree when kinds, sorts of target and local names in kebab case do. -/
theorem defaultApiName_eq_iff :
    target.defaultApiName kind = other.defaultApiName otherKind ↔
      kind = otherKind ∧ target.isInterface = other.isInterface ∧
        kebabCase target.id.localName = kebabCase other.id.localName := by
  simp only [← String.toList_inj, toList_defaultApiName]
  constructor
  · intro h
    obtain ⟨hkind, hsort⟩ : kind = otherKind ∧ target.isInterface = other.isInterface := by
      rcases List.prefix_or_prefix_of_prefix (List.prefix_append _ _)
        (h ▸ List.prefix_append _ _) with hprefix | hprefix
      · obtain ⟨hkind, hsort⟩ := CrudKind.opening_unique _ _ _ _ hprefix
        exact ⟨hkind.symm, hsort.symm⟩
      · exact CrudKind.opening_unique _ _ _ _ hprefix
    rw [hkind, hsort] at h
    exact ⟨hkind, hsort, List.append_cancel_left h⟩
  · rintro ⟨rfl, hsort, hkebab⟩
    rw [hsort, hkebab]

theorem not_dot_defaultApiName : '.' ∉ (target.defaultApiName kind).toList := by
  rw [toList_defaultApiName, List.mem_append, not_or]
  refine ⟨?_, not_dot_kebabCase (Identifier.not_dot_localName _)⟩
  revert kind
  generalize target.isInterface = isInterface
  revert isInterface
  decide +kernel

end CrudTarget

/-- Two generated actions without names of their own share an identifier exactly when they have one
kind and one sort of target, and the local names of the targets have one kebab case. -/
theorem CrudDraft.actionId_eq_iff {policy : NamingPolicy} {first second : CrudDraft}
    (hfirst : first.apiName = none) (hsecond : second.apiName = none) :
    first.actionId policy = second.actionId policy ↔
      first.kind = second.kind ∧
        (first.target.qualify policy).isInterface = (second.target.qualify policy).isInterface ∧
        kebabCase (first.target.qualify policy).id.localName =
          kebabCase (second.target.qualify policy).id.localName := by
  rw [actionId, actionId, hfirst, hsecond, ← CrudTarget.defaultApiName_eq_iff]
  exact Namespace.qualify_auto_eq_iff CrudTarget.not_dot_defaultApiName
    CrudTarget.not_dot_defaultApiName

/-! ### Actions that stay -/

namespace Registry

variable {before between after registry : Registry} {id : Identifier} {compiled : CompiledAction}

theorem SameAt.refl (registry : Registry) (id : Identifier) : registry.SameAt registry id :=
  ⟨rfl, rfl⟩

theorem SameAt.trans (h : before.SameAt between id) (hafter : between.SameAt after id) :
    before.SameAt after id where
  permission := hafter.permission.trans h.permission
  action := hafter.action.trans h.action

/-- A registry has a compiled action under its identifier, with the restriction that belongs to
it. -/
structure Offers (registry : Registry) (compiled : CompiledAction) : Prop where
  action : registry.defined.actionTypes.get? compiled.actionType.id = some compiled.actionType
  permission : registry.permission? compiled.actionType.id = compiled.permission

theorem Offers.congr (h : before.Offers compiled)
    (hsame : before.SameAt after compiled.actionType.id) : after.Offers compiled where
  action := hsame.action.trans h.action
  permission := hsame.permission.trans h.permission

theorem offers_register {action : ActionDefinition} (h : action.compile registry = .ok compiled) :
    (compiled.register registry).Offers compiled where
  action := by
    rw [CompiledAction.register_defined]
    exact (Table.get?_insert _ _ _ _).trans (if_pos rfl)
  permission := by
    obtain ⟨hid, hpermission, -⟩ := ActionDefinition.compile_submission h
    rw [hid, ActionDefinition.permission?_register h, if_pos rfl, hpermission]

end Registry

namespace Session

variable {session : Session} {id : Identifier} {operations : List Operation}

/-- Operations spare an identifier when none of them is a reset or defines an action under it. -/
def Spares (session : Session) (id : Identifier) : List Operation → Prop
  | [] => True
  | operation :: rest =>
    operation ≠ .reset ∧ (∀ action, session.Defines operation action → action.id ≠ id) ∧
      (session.perform operation).Spares id rest

/-- Operations that spare an identifier change nothing under it. -/
theorem sameAt_performAll (h : session.Spares id operations) :
    session.registry.SameAt (session.performAll operations).registry id := by
  induction operations generalizing session with
  | nil => exact .refl _ _
  | cons operation rest ih =>
    obtain ⟨hreset, hother, hrest⟩ := h
    exact (sameAt_perform hreset hother).trans (ih hrest)

/-- A session offers a generated action as soon as it has accepted it. -/
theorem exists_offers_of_define {draft : CrudDraft} {next : Session}
    (h : session.define (.generatedAction draft) = .ok next) :
    ∃ compiled, (draft.qualify session.policy).compile session.registry = .ok compiled ∧
      compiled.actionType.id = draft.actionId session.policy ∧ next.policy = session.policy ∧
      next.registry.Offers compiled := by
  obtain ⟨registry, happly, rfl⟩ := define_eq_ok_iff.mp h
  obtain ⟨compiled, hcompile, rfl⟩ := Definition.exists_compiled_of_apply rfl happly
  exact ⟨compiled, hcompile, (ActionDefinition.compile_submission hcompile).1, rfl,
    Registry.offers_register hcompile⟩

/-- Two generated actions have one default identifier exactly when they agree on the kind, on the
sort of target and on the kebab case of the target's local name. When both have been defined, with
operations between them that spare the first, the session has the second one, and the first one as
well if the identifiers differ, each with its restriction. -/
theorem defaultActions_kept (session : Session) {first second : CrudDraft}
    (hfirst : first.apiName = none) (hsecond : second.apiName = none) :
    (first.actionId session.policy = second.actionId session.policy ↔
      first.kind = second.kind ∧
        (first.target.qualify session.policy).isInterface =
          (second.target.qualify session.policy).isInterface ∧
        kebabCase (first.target.qualify session.policy).id.localName =
          kebabCase (second.target.qualify session.policy).id.localName) ∧
    ∀ middle operations final, session.define (.generatedAction first) = .ok middle →
      middle.Spares (first.actionId session.policy) operations →
      (middle.performAll operations).define (.generatedAction second) = .ok final →
      ∃ compiled other,
        (first.qualify session.policy).compile session.registry = .ok compiled ∧
        (second.qualify session.policy).compile (middle.performAll operations).registry =
          .ok other ∧
        compiled.actionType.id = first.actionId session.policy ∧
        other.actionType.id = second.actionId session.policy ∧ final.registry.Offers other ∧
        (first.actionId session.policy ≠ second.actionId session.policy →
          final.registry.Offers compiled) := by
  refine ⟨CrudDraft.actionId_eq_iff hfirst hsecond, ?_⟩
  intro middle operations final hmiddle hspares hfinal
  obtain ⟨compiled, hcompile, hid, hpolicy, hoffers⟩ := exists_offers_of_define hmiddle
  obtain ⟨other, hother, hotherId, -, hotherOffers⟩ := exists_offers_of_define hfinal
  rw [performAll_policy, hpolicy] at hother hotherId
  refine ⟨compiled, other, hcompile, hother, hid, hotherId, hotherOffers, fun hne ↦ ?_⟩
  have hkept := hoffers.congr (hid ▸ sameAt_performAll hspares)
  -- The second definition is for another identifier, so it spares the first one as well.
  have hlast : ∀ action, (middle.performAll operations).Defines
      (.define (.generatedAction second)) action → action.id ≠ compiled.actionType.id := by
    rintro action ⟨haction, -⟩
    cases haction
    rw [hid]
    change second.actionId _ ≠ _
    rw [performAll_policy, hpolicy]
    exact hne.symm
  rw [← perform_define hfinal]
  exact hkept.congr (sameAt_perform (by simp) hlast)

end Session

/-- Two objects that have the local name `ticket`, one of them in another namespace. -/
def Fixture.tickets : List Definition :=
  [.objectType
    { name := .auto "ticket", primaryKey := some "code", properties := [property "code" text] },
  .objectType
    { name := .auto "org.archive.ticket"
      primaryKey := some "code"
      properties := [property "code" text] }]

/-- An action of some kind on objects of some name, without a name of its own. -/
def Fixture.unnamed (kind : CrudKind) (object : String) : CrudDraft where
  kind
  target := .object (.auto object)

namespace Session

/-- Deleting archived tickets has another default name than creating tickets, so both actions are
there in the end. -/
theorem defaultActions_kept_tickets :
    ∃ session middle final : Session,
      (Fixture.unnamed .create "ticket").apiName = none ∧
      (Fixture.unnamed .delete "org.archive.ticket").apiName = none ∧
      session.define (.generatedAction (Fixture.unnamed .create "ticket")) = .ok middle ∧
      middle.define (.generatedAction (Fixture.unnamed .delete "org.archive.ticket")) = .ok final ∧
      ∃ compiled, compiled.actionType.id = ⟨"com.example.create-object-ticket"⟩ ∧
        final.registry.Offers compiled := by
  let session : Session :=
    ⟨{ qualifier := "com.example" }, ⟨⟨"com.example."⟩, true⟩, Fixture.registry Fixture.tickets⟩
  obtain ⟨hcomputed, hid, hne⟩ :
      ((do
        let middle ← session.define (.generatedAction (Fixture.unnamed .create "ticket"))
        middle.define (.generatedAction (Fixture.unnamed .delete "org.archive.ticket")) :
          Except SessionError Session)).toOption.map (fun _ ↦ ()) = some () ∧
      (Fixture.unnamed .create "ticket").actionId session.policy =
        ⟨"com.example.create-object-ticket"⟩ ∧
      (Fixture.unnamed .create "ticket").actionId session.policy ≠
        (Fixture.unnamed .delete "org.archive.ticket").actionId session.policy := by
    decide +kernel
  obtain ⟨final, hboth, -⟩ := exists_of_toOption_map hcomputed
  obtain ⟨middle, hmiddle, hfinal⟩ := bind_eq_ok_iff.mp hboth
  obtain ⟨compiled, other, -, -, hcompiled, -, -, hkept⟩ :=
    (defaultActions_kept session rfl rfl).2 middle [] final hmiddle trivial hfinal
  exact ⟨session, middle, final, rfl, rfl, hmiddle, hfinal, compiled, hcompiled.trans hid,
    hkept hne⟩

/-- Two generated actions without names of their own differ in the kind or the target, and their
targets are well formed. -/
structure DifferentActions (policy : NamingPolicy) (first second : CrudDraft) : Prop where
  firstUnnamed : first.apiName = none
  secondUnnamed : second.apiName = none
  firstWellFormed : (first.target.qualify policy).id.WellFormed
  secondWellFormed : (second.target.qualify policy).id.WellFormed
  different : (first.kind, first.target.qualify policy) ≠
    (second.kind, second.target.qualify policy)

/-- The action that creates archived tickets has the default name of the one that creates tickets,
and takes its place. -/
theorem not_forall_defaultActions_apart :
    (¬ ∀ (options : SessionOptions) (start : Session) (first second : CrudDraft),
      Session.start options = .ok start → DifferentActions start.policy first second →
        first.actionId start.policy ≠ second.actionId start.policy) ∧
    ¬ ∀ (options : SessionOptions) (start : Session) (operations : List Operation)
      (first second : CrudDraft) (middle final : Session),
      Session.start options = .ok start → DifferentActions start.policy first second →
        (start.performAll operations).define (.generatedAction first) = .ok middle →
        middle.define (.generatedAction second) = .ok final →
          2 ≤ final.registry.defined.actionTypes.entries.length := by
  let policy : NamingPolicy := ⟨⟨"com.example."⟩, true⟩
  let first := Fixture.unnamed .create "ticket"
  let second := Fixture.unnamed .create "org.archive.ticket"
  let operations : List Operation := Fixture.tickets.map .define
  have hcomputed : ((do
      let start ← Session.start { qualifier := "com.example" }
      let middle ← (start.performAll operations).define (.generatedAction first)
      let final ← middle.define (.generatedAction second)
      return (start, middle, final) :
        Except SessionError (Session × Session × Session))).toOption.map
          (fun (start, _, final) ↦
            (start.policy, final.registry.defined.actionTypes.entries.length)) =
        some (policy, 1) := by
    decide +kernel
  obtain ⟨⟨_, _, _⟩, hrun, hview⟩ := exists_of_toOption_map hcomputed
  simp only [bind_eq_ok_iff, pure_eq_ok_iff, Prod.mk.injEq] at hrun
  obtain ⟨start, hstart, middle, hmiddle, final, hfinal, rfl, rfl, rfl⟩ := hrun
  obtain ⟨hpolicy, hlength⟩ := Prod.mk.inj hview
  have hdifferent : DifferentActions start.policy first second := by
    rw [hpolicy]
    exact ⟨rfl, rfl, by decide +kernel, by decide +kernel, by decide +kernel⟩
  constructor
  · intro hall
    refine hall _ start first second hstart hdifferent ?_
    rw [hpolicy]
    decide +kernel
  · intro hall
    have htwo := hall _ start operations first second middle final hstart hdifferent hmiddle hfinal
    rw [hlength] at htwo
    exact absurd htwo (by decide)

end Session

end Ontology
