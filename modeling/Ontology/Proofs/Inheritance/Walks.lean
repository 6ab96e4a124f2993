import Ontology.Proofs.Inheritance.Resolution
import Mathlib.Data.Finset.Card
import Mathlib.Data.List.Chain

/-!
The walk over the interfaces with a trail that it changes in place. `Registry.collectProperties`
hands every call a trail of its own; `Registry.walk` keeps one, pushes each interface that it enters
and pops it when all parents are done, and notes the trail at every call. It has a limit on how
deep calls nest, and gives nothing when it runs into the limit.

A call that succeeds leaves the trail as it was (`restores_walk`). A trail that a call is made with
holds distinct registered interfaces (`TrailOf`), so it is no longer than there are registered
interfaces (`TrailOf.length_le`), and a limit above their number is never met: within it the walk
ends, with what `collectProperties` gives (`exists_walk`). A cycle is reported with a path that
starts at the root, goes from child to parent and ends at an interface which it has passed before
(`Lasso`, `lasso_of_collectProperties`). `walk_terminates` puts this together.
-/

set_option autoImplicit false
set_option relaxedAutoImplicit false

namespace Ontology

open Outcome

/-! ### A walk that keeps its trail in place -/

/-- A walk under way: the interfaces that it has entered and not left, the nearest first, the
properties found so far, and the trail at each of the calls made so far. -/
structure Walk where
  trail : List Identifier := []
  found : List EffectiveProperty := []
  calls : List (List Identifier) := []

namespace Walk

/-- How a stretch of a walk ends: with the walk as it then is, in success or with an error. -/
abbrev Stop := Walk × Except SchemaError Unit

/-- One more call is made. -/
def note (walk : Walk) : Walk := { walk with calls := walk.calls ++ [walk.trail] }

/-- An interface is entered. -/
def push (id : Identifier) (walk : Walk) : Walk := { walk with trail := id :: walk.trail }

/-- The interface that was entered last is left, unless the walk has failed inside it. -/
def Stop.leave : Stop → Stop
  | (walk, .ok ()) => ({ walk with trail := walk.trail.tail }, .ok ())
  | failed => failed

/-- Calls are made one after another, up to the first that fails. -/
def callEach (call : Walk → Identifier → Option Stop) : List Identifier → Walk → Option Stop
  | [], walk => some (walk, .ok ())
  | id :: rest, walk =>
    match call walk id with
    | some (next, .ok ()) => callEach call rest next
    | stopped => stopped

end Walk

namespace Registry

/-- The walk through an interface in which calls nest no deeper than a limit. -/
def walk (registry : Registry) (root : Identifier) : Nat → Walk → Identifier → Option Walk.Stop
  | 0, _, _ => none
  | depth + 1, before, id =>
    let entered := before.note.push id
    if id ∈ before.trail then
      some (entered, .error (.interfaceCycle root entered.trail.reverse))
    else
      match registry.interfaceType? id with
      | none =>
        some (before.note, .error
          (.unknownInterfaceType id ((before.trail.head?.map (·.text)).getD "action")))
      | some interface =>
        match registry.mergeDeclared root id before.found interface.properties with
        | .error error => some (entered, .error error)
        | .ok found =>
          (Walk.callEach (registry.walk root depth) interface.parents
            { entered with found }).map Walk.Stop.leave

variable {registry : Registry} {root id : Identifier} {trail path : List Identifier}
  {interface : InterfaceType} {depth : Nat} {before after : Walk}

/-! ### Trails -/

/-- How many interfaces are registered. -/
def interfaceCount (registry : Registry) : Nat := registry.interfaceIds.toFinset.card

/-- A trail of distinct registered interfaces. -/
structure TrailOf (registry : Registry) (trail : List Identifier) : Prop where
  distinct : trail.Nodup
  registered : ∀ id ∈ trail, (registry.interfaceType? id).isSome

namespace TrailOf

theorem nil : registry.TrailOf [] := ⟨.nil, by simp⟩

theorem cons (h : registry.TrailOf trail) (hoff : id ∉ trail)
    (hinterface : registry.interfaceType? id = some interface) : registry.TrailOf (id :: trail) :=
  ⟨List.nodup_cons.mpr ⟨hoff, h.distinct⟩,
    List.forall_mem_cons.mpr ⟨by simp [hinterface], h.registered⟩⟩

/-- A trail is no longer than there are registered interfaces. -/
theorem length_le (h : registry.TrailOf trail) : trail.length ≤ registry.interfaceCount := by
  rw [← List.toFinset_card_of_nodup h.distinct, interfaceCount]
  refine Finset.card_le_card fun id hid ↦ ?_
  rw [List.mem_toFinset] at hid ⊢
  exact isSome_interfaceType?_iff.mp (h.registered id hid)

/-- A call that is made along such a trail may be noted. -/
theorem calls_note (h : registry.TrailOf before.trail) :
    ∀ trail ∈ before.note.calls, trail ∈ before.calls ∨ registry.TrailOf trail := by
  intro trail hcall
  rcases List.mem_append.mp hcall with hearlier | hthis
  · exact .inl hearlier
  · exact .inr (List.mem_singleton.mp hthis ▸ h)

end TrailOf

/-! ### The trail is restored -/

/-- Whenever a call succeeds, it leaves the trail as it was. -/
def Restores (call : Walk → Identifier → Option Walk.Stop) : Prop :=
  ∀ before id after, call before id = some (after, .ok ()) → after.trail = before.trail

theorem Restores.callEach {call : Walk → Identifier → Option Walk.Stop} (hcall : Restores call)
    {ids : List Identifier} (h : Walk.callEach call ids before = some (after, .ok ())) :
    after.trail = before.trail := by
  induction ids generalizing before with
  | nil => cases h; rfl
  | cons id rest ih =>
    rw [Walk.callEach] at h
    split at h
    · next next hnext => exact (ih h).trans (hcall before id next hnext)
    · next hfailed => exact absurd h (hfailed after)

/-- A walk that succeeds has entered an interface, gone through all of its parents and left it. -/
theorem exists_of_walk (h : registry.walk root (depth + 1) before id = some (after, .ok ())) :
    ∃ interface found below, registry.interfaceType? id = some interface ∧
      registry.mergeDeclared root id before.found interface.properties = .ok found ∧
      Walk.callEach (registry.walk root depth) interface.parents
        { before.note.push id with found } = some (below, .ok ()) ∧
      after = { below with trail := below.trail.tail } := by
  rw [walk] at h
  by_cases hon : id ∈ before.trail
  · simp [if_pos hon] at h
  rw [if_neg hon] at h
  cases hinterface : registry.interfaceType? id with
  | none => simp [hinterface] at h
  | some interface =>
    simp only [hinterface] at h
    cases hmerged : registry.mergeDeclared root id before.found interface.properties with
    | error error => simp [hmerged] at h
    | ok found =>
      simp only [hmerged, Option.map_eq_some_iff] at h
      obtain ⟨⟨below, outcome⟩, hbelow, hleave⟩ := h
      cases outcome with
      | error error => simp [Walk.Stop.leave] at hleave
      | ok =>
        cases hleave
        exact ⟨interface, found, below, rfl, hmerged, hbelow, rfl⟩

/-- A walk that succeeds leaves the trail as it was: the calls below have done so, and of what they
have left the interface that was entered for them is taken off. -/
theorem restores_walk (registry : Registry) (root : Identifier) (depth : Nat) :
    Restores (registry.walk root depth) := by
  induction depth with
  | zero => exact nofun
  | succ depth ih =>
    intro before id after h
    obtain ⟨interface, found, below, -, -, hbelow, rfl⟩ := exists_of_walk h
    have hrestored : below.trail = id :: before.trail := ih.callEach hbelow
    rw [hrestored, List.tail_cons]

/-! ### The walk is the one that computes the properties -/

/-- A stretch of a walk ends as it should: it has found what is expected of it, and has made its
calls along trails of distinct registered interfaces. -/
structure Finds (registry : Registry) (before : Walk)
    (expected : Except SchemaError (List EffectiveProperty)) (stop : Walk.Stop) : Prop where
  result : (fun _ ↦ stop.1.found) <$> stop.2 = expected
  calls : ∀ trail ∈ stop.1.calls, trail ∈ before.calls ∨ registry.TrailOf trail

namespace Finds

variable {expected : Except SchemaError (List EffectiveProperty)} {stop : Walk.Stop}

/-- A call may fail at once, without calls below it. -/
theorem of_error {error : SchemaError} (htrail : registry.TrailOf before.trail)
    (hcalls : after.calls = before.note.calls) :
    registry.Finds before (.error error) (after, .error error) :=
  ⟨rfl, hcalls ▸ htrail.calls_note⟩

/-- A call may go on with calls below it, once it has entered its interface. -/
theorem leave {found : List EffectiveProperty} (htrail : registry.TrailOf before.trail)
    (h : registry.Finds { before.note.push id with found } expected stop) :
    registry.Finds before expected stop.leave := by
  obtain ⟨after, outcome⟩ := stop
  have hcalls : ∀ trail ∈ after.calls, trail ∈ before.calls ∨ registry.TrailOf trail :=
    fun trail hcall ↦ (h.calls trail hcall).elim (htrail.calls_note trail) .inr
  cases outcome with
  | error error => exact ⟨h.result, hcalls⟩
  | ok => exact ⟨h.result, hcalls⟩

end Finds

/-- Calls that restore the trail, and that end as they should from this trail, do so one after
another. -/
theorem exists_callEach
    {plain : List EffectiveProperty → Identifier → Except SchemaError (List EffectiveProperty)}
    {call : Walk → Identifier → Option Walk.Stop} {ids : List Identifier}
    (hrestores : Restores call) (hcall : ∀ walk id, walk.trail = trail →
      ∃ stop, call walk id = some stop ∧ registry.Finds walk (plain walk.found id) stop)
    (hbefore : before.trail = trail) :
    ∃ stop, Walk.callEach call ids before = some stop ∧
      registry.Finds before (ids.foldlM plain before.found) stop := by
  induction ids generalizing before with
  | nil => exact ⟨_, rfl, rfl, fun trail hcall ↦ .inl hcall⟩
  | cons id rest ih =>
    obtain ⟨⟨next, outcome⟩, hnext, hfinds⟩ := hcall before id hbefore
    rw [Walk.callEach, hnext, List.foldlM_cons, ← hfinds.result]
    cases outcome with
    | error error => exact ⟨_, rfl, rfl, hfinds.calls⟩
    | ok =>
      obtain ⟨stop, hstop, hrest⟩ := ih ((hrestores before id next hnext).trans hbefore)
      exact ⟨stop, hstop, hrest.result, fun trail hcall ↦
        (hrest.calls trail hcall).elim (hfinds.calls trail) .inr⟩

/-- From a trail of distinct registered interfaces, a walk whose limit exceeds the number of those
that are not yet on the trail ends as it should. -/
theorem exists_walk (htrail : registry.TrailOf before.trail)
    (hdepth : registry.interfaceCount < before.trail.length + depth) :
    ∃ stop, registry.walk root depth before id = some stop ∧
      registry.Finds before (registry.collectProperties root before.trail before.found id)
        stop := by
  induction depth generalizing before id with
  | zero => exact absurd htrail.length_le (Nat.not_le_of_lt hdepth)
  | succ depth ih =>
    rw [walk]
    by_cases hon : id ∈ before.trail
    · rw [if_pos hon, collectProperties, dif_pos hon]
      exact ⟨_, rfl, .of_error htrail rfl⟩
    rw [if_neg hon]
    cases hinterface : registry.interfaceType? id with
    | none =>
      rw [collectProperties_of_none hon hinterface]
      exact ⟨_, rfl, .of_error htrail rfl⟩
    | some interface =>
      rw [collectProperties_of_interface hon hinterface]
      dsimp only
      cases registry.mergeDeclared root id before.found interface.properties with
      | error error => exact ⟨_, rfl, .of_error htrail rfl⟩
      | ok found =>
        -- One interface more is on the trail, so one level less is needed below.
        have hentered := htrail.cons hon hinterface
        have hbelow : registry.interfaceCount < (id :: before.trail).length + depth := by
          rw [List.length_cons]
          omega
        let entered : Walk := { before.note.push id with found }
        obtain ⟨stop, hstop, hfinds⟩ : ∃ stop,
            Walk.callEach (registry.walk root depth) interface.parents entered = some stop ∧
            registry.Finds entered
              (interface.parents.foldlM (registry.collectProperties root (id :: before.trail))
                found) stop := by
          refine exists_callEach (restores_walk _ _ depth) (fun walk parent hwalk ↦ ?_) rfl
          change walk.trail = id :: before.trail at hwalk
          rw [← hwalk] at hentered hbelow ⊢
          exact ih hentered hbelow
        exact ⟨stop.leave, congrArg (·.map Walk.Stop.leave) hstop, hfinds.leave htrail⟩

/-! ### Paths that come back -/

/-- A path from a root, from child to parent, that ends at an interface which it has passed
before. -/
structure Lasso (registry : Registry) (root : Identifier) (path : List Identifier) : Prop where
  starts : path.head? = some root
  climbs : path.IsChain registry.Extends
  closes : ∃ last ∈ path.dropLast, path.getLast? = some last

/-- A path that leads from the root along the trail comes back when its last interface stands on the
trail. -/
theorem Lasso.of_mem (hclimbs : (id :: trail).reverse.IsChain registry.Extends)
    (hstarts : (id :: trail).getLast? = some root) (hon : id ∈ trail) :
    registry.Lasso root (id :: trail).reverse where
  starts := by rw [List.head?_reverse, hstarts]
  climbs := hclimbs
  closes := by
    rw [List.reverse_cons, List.dropLast_concat, List.getLast?_concat]
    exact ⟨id, List.mem_reverse.mpr hon, rfl⟩

/-- A cycle that is reported is one, for a walk that has come from the root along the trail. -/
theorem lasso_of_collectProperties {found : List EffectiveProperty} {asked : Identifier}
    (hclimbs : (id :: trail).reverse.IsChain registry.Extends)
    (hstarts : (id :: trail).getLast? = some root)
    (h : registry.collectProperties root trail found id = .error (.interfaceCycle asked path)) :
    asked = root ∧ registry.Lasso root path := by
  induction trail, found, id using collectProperties.induct registry with
  | case1 trail found id hon =>
    rw [collectProperties, dif_pos hon] at h
    cases h
    exact ⟨rfl, .of_mem hclimbs hstarts hon⟩
  | case2 trail found id hoff hnone =>
    rw [collectProperties_of_none hoff hnone] at h
    cases h
  | case3 trail found id hoff interface hinterface ih =>
    rw [collectProperties_of_interface hoff hinterface, bind_eq_error_iff] at h
    rcases h with hdeclared | ⟨merged, -, hparents⟩
    · cases mergeDeclared_meets_declarationError.error hdeclared
    · obtain ⟨before, parent, after, reached, hsplit, -, hparent⟩ :=
        foldlM_eq_error_iff.mp hparents
      have hextends : registry.Extends id parent := ⟨interface, hinterface, by simp [hsplit]⟩
      refine ih reached parent ?_ ?_ hparent
      · rw [List.isChain_reverse] at hclimbs ⊢
        exact hclimbs.cons_cons hextends
      · rwa [List.getLast?_cons_cons]

/-- Whatever a registry holds, the walk from a root ends with what `interfaceProperties` gives, and
calls nest no deeper than one more than there are registered interfaces. All calls are made along
trails of distinct registered interfaces, a call that succeeds leaves the trail as it was, and a
cycle is reported with a path from the root that comes back to an interface on it. -/
theorem walk_terminates (registry : Registry) (root : Identifier) :
    (∀ depth, registry.interfaceCount < depth → ∃ after outcome,
      registry.walk root depth {} root = some (after, outcome) ∧
      (fun _ ↦ after.found) <$> outcome = registry.interfaceProperties root ∧
      ∀ trail ∈ after.calls, registry.TrailOf trail ∧
        trail.length + 1 ≤ registry.interfaceCount + 1) ∧
    (∀ depth before id after,
      registry.walk root depth before id = some (after, .ok ()) → after.trail = before.trail) ∧
    ∀ asked path, registry.interfaceProperties root = .error (.interfaceCycle asked path) →
      asked = root ∧ registry.Lasso root path := by
  refine ⟨fun depth hdepth ↦ ?_, restores_walk registry root, fun asked path hcycle ↦ ?_⟩
  · obtain ⟨⟨after, outcome⟩, hwalk, hfinds⟩ : ∃ stop,
        registry.walk root depth {} root = some stop ∧
        registry.Finds {} (registry.interfaceProperties root) stop :=
      exists_walk .nil (by simpa using hdepth)
    refine ⟨after, outcome, hwalk, hfinds.result, fun trail hcall ↦ ?_⟩
    have htrail := (hfinds.calls trail hcall).resolve_left List.not_mem_nil
    exact ⟨htrail, Nat.succ_le_succ htrail.length_le⟩
  · exact lasso_of_collectProperties (.singleton root) rfl hcycle

/-! ### Plans and tasks -/

/-- An interface that declares nothing of its own. -/
def bareInterface (text : String) (parents : List Identifier) : Entity :=
  .interfaceType ⟨⟨text⟩, text, none, parents, []⟩

/-- Plans and imported tasks, which both have names and extend each other. -/
def entangled : Registry :=
  ((empty.register (bareInterface "ns.named" [])).register
    (bareInterface "ns.plan" [⟨"ns.named"⟩, ⟨"ns.task"⟩, ⟨"ns.task"⟩])).addImported
    (bareInterface "ns.task" [⟨"ns.named"⟩, ⟨"ns.plan"⟩])

/-- The walk through plans enters names and leaves them, enters tasks, and fails when it is back at
plans. -/
theorem walk_terminates_entangled :
    (∃ after error, entangled.walk ⟨"ns.plan"⟩ 4 {} ⟨"ns.plan"⟩ = some (after, .error error) ∧
      after.calls.map (·.length) = [0, 1, 1, 2, 2] ∧
      ∀ trail ∈ after.calls, entangled.TrailOf trail ∧
        trail.length + 1 ≤ entangled.interfaceCount + 1) ∧
    (∃ after, entangled.walk ⟨"ns.plan"⟩ 1 { trail := [⟨"ns.plan"⟩] } ⟨"ns.named"⟩ =
        some (after, .ok ()) ∧ after.trail = [⟨"ns.plan"⟩]) ∧
    entangled.interfaceProperties ⟨"ns.plan"⟩ =
      .error (.interfaceCycle ⟨"ns.plan"⟩ [⟨"ns.plan"⟩, ⟨"ns.task"⟩, ⟨"ns.plan"⟩]) ∧
    entangled.Lasso ⟨"ns.plan"⟩ [⟨"ns.plan"⟩, ⟨"ns.task"⟩, ⟨"ns.plan"⟩] := by
  obtain ⟨hends, hrestores, hcycles⟩ := walk_terminates entangled ⟨"ns.plan"⟩
  obtain ⟨after, outcome, hwalk, hresult, hcalls⟩ := hends 4 (by decide +kernel)
  have hcomputed : entangled.walk ⟨"ns.plan"⟩ 4 {} ⟨"ns.plan"⟩ = some
      (⟨[⟨"ns.plan"⟩, ⟨"ns.task"⟩, ⟨"ns.plan"⟩], [],
        [[], [⟨"ns.plan"⟩], [⟨"ns.plan"⟩], [⟨"ns.task"⟩, ⟨"ns.plan"⟩], [⟨"ns.task"⟩, ⟨"ns.plan"⟩]]⟩,
        .error (.interfaceCycle ⟨"ns.plan"⟩ [⟨"ns.plan"⟩, ⟨"ns.task"⟩, ⟨"ns.plan"⟩])) := rfl
  obtain ⟨named, hnamed⟩ : ∃ named, entangled.walk ⟨"ns.plan"⟩ 1 { trail := [⟨"ns.plan"⟩] }
      ⟨"ns.named"⟩ = some (named, .ok ()) := ⟨_, rfl⟩
  rw [hcomputed] at hwalk
  cases hwalk
  have hcycle := hresult.symm
  exact ⟨⟨_, _, hcomputed, rfl, hcalls⟩, ⟨named, hnamed, hrestores _ _ _ _ hnamed⟩, hcycle,
    (hcycles _ _ hcycle).2⟩

end Registry

end Ontology
