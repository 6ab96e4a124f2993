import Mathlib.Data.List.Forall2

/-!
Computations that may end in an error. A sequence of steps succeeds exactly when every step does,
and a traversal of a list exactly when it does at every item: `bind_eq_ok_iff`, `mapM_eq_ok_iff` and
`forM_eq_ok_iff` take a success apart without opening the computation behind it. `Meets` bounds what
may come out, result or error, `Reports` looks at one part of the errors, and `Persists` compares
two computations by their successes alone; all three go through sequences and traversals.
-/

set_option autoImplicit false
set_option relaxedAutoImplicit false

namespace Ontology.Outcome

variable {ε ε' α β γ : Type}

@[simp] theorem pure_eq_ok_iff {a b : α} : (pure a : Except ε α) = .ok b ↔ a = b := by
  simp [pure, Except.pure]

@[simp] theorem throw_ne_ok {error : ε} {a : α} : (throw error : Except ε α) ≠ .ok a := by
  simp [throw, throwThe, MonadExceptOf.throw]

@[simp] theorem throw_eq_error_iff {error other : ε} :
    (throw error : Except ε α) = .error other ↔ error = other := by
  simp [throw, throwThe, MonadExceptOf.throw]

/-- A sequence succeeds when the first step does and the second does on its result. -/
@[simp] theorem bind_eq_ok_iff {x : Except ε α} {f : α → Except ε β} {b : β} :
    (x >>= f) = .ok b ↔ ∃ a, x = .ok a ∧ f a = .ok b := by
  cases x <;> simp [bind, Except.bind]

/-- A sequence fails with the error of the first step, or with that of the second on its result. -/
theorem bind_eq_error_iff {x : Except ε α} {f : α → Except ε β} {error : ε} :
    (x >>= f) = .error error ↔ x = .error error ∨ ∃ a, x = .ok a ∧ f a = .error error := by
  cases x <;> simp [bind, Except.bind]

@[simp] theorem map_eq_ok_iff {f : α → β} {x : Except ε α} {b : β} :
    f <$> x = .ok b ↔ ∃ a, x = .ok a ∧ f a = b := by
  cases x <;> simp [Functor.map, Except.map]

@[simp] theorem map_eq_error_iff {f : α → β} {x : Except ε α} {error : ε} :
    f <$> x = .error error ↔ x = .error error := by
  cases x <;> simp [Functor.map, Except.map]

@[simp] theorem mapError_eq_ok_iff {f : ε → ε'} {x : Except ε α} {a : α} :
    x.mapError f = .ok a ↔ x = .ok a := by
  cases x <;> simp [Except.mapError]

theorem mapError_eq_error_iff {f : ε → ε'} {x : Except ε α} {error : ε'} :
    x.mapError f = .error error ↔ ∃ cause, x = .error cause ∧ f cause = error := by
  cases x <;> simp [Except.mapError]

@[simp] theorem exists_unit_eq_ok_iff {x : Except ε Unit} : (∃ u, x = .ok u) ↔ x = .ok () :=
  ⟨fun ⟨_, h⟩ ↦ h, fun h ↦ ⟨_, h⟩⟩

theorem exists_unit_eq_ok_and_iff {x : Except ε Unit} {p : Prop} :
    (∃ u, x = .ok u ∧ p) ↔ x = .ok () ∧ p :=
  ⟨fun ⟨_, h⟩ ↦ h, fun h ↦ ⟨_, h⟩⟩

/-- A success can be told from a view of it that is computed. -/
theorem exists_of_toOption_map {f : α → β} {x : Except ε α} {b : β}
    (h : x.toOption.map f = some b) : ∃ a, x = .ok a ∧ f a = b := by
  cases x with
  | error error => cases h
  | ok a => exact ⟨a, rfl, Option.some.inj h⟩

/-! ### Traversals -/

/-- A traversal succeeds when every step does, and gives the results in order. -/
theorem mapM_eq_ok_iff {f : α → Except ε β} {xs : List α} {ys : List β} :
    xs.mapM f = .ok ys ↔ List.Forall₂ (fun x y ↦ f x = .ok y) xs ys := by
  induction xs generalizing ys with
  | nil =>
    rw [List.mapM_nil, pure_eq_ok_iff, List.forall₂_nil_left_iff, eq_comm]
  | cons x xs ih =>
    simp only [List.mapM_cons, bind_eq_ok_iff, pure_eq_ok_iff, ih, List.forall₂_cons_left_iff]
    constructor
    · rintro ⟨y, hy, rest, hrest, rfl⟩
      exact ⟨y, rest, hy, hrest, rfl⟩
    · rintro ⟨y, rest, hy, hrest, rfl⟩
      exact ⟨y, hy, rest, hrest, rfl⟩

/-- A check of all items passes when the check of each does. -/
theorem forM_eq_ok_iff {f : α → Except ε Unit} {xs : List α} :
    xs.forM f = .ok () ↔ ∀ x ∈ xs, f x = .ok () := by
  induction xs with
  | nil => simp
  | cons x xs ih =>
    rw [List.forM_eq_forM] at ih ⊢
    simp [ih]

/-- A check of all items fails with the error of the first that does not pass. -/
theorem forM_eq_error_iff {f : α → Except ε Unit} {xs : List α} {error : ε} :
    xs.forM f = .error error ↔
      ∃ before x after, xs = before ++ x :: after ∧ (∀ y ∈ before, f y = .ok ()) ∧
        f x = .error error := by
  induction xs with
  | nil => simp [pure, Except.pure]
  | cons head rest ih =>
    rw [List.forM_eq_forM] at ih ⊢
    rw [List.forM_cons, bind_eq_error_iff, exists_unit_eq_ok_and_iff, ih]
    constructor
    · rintro (hhead | ⟨hhead, before, x, after, rfl, hbefore, hx⟩)
      · exact ⟨[], head, rest, rfl, by simp, hhead⟩
      · exact ⟨head :: before, x, after, rfl, List.forall_mem_cons.mpr ⟨hhead, hbefore⟩, hx⟩
    · rintro ⟨before, x, after, hsplit, hbefore, hx⟩
      cases before with
      | nil =>
        obtain ⟨rfl, -⟩ := List.cons.inj hsplit
        exact .inl hx
      | cons first before =>
        obtain ⟨rfl, rfl⟩ := List.cons.inj hsplit
        obtain ⟨hhead, hbefore⟩ := List.forall_mem_cons.mp hbefore
        exact .inr ⟨hhead, before, x, after, rfl, hbefore, hx⟩

/-- Of two lists that are related item by item, every item of the second has its item in the
first. -/
theorem exists_of_mem_forall₂ {R : α → β → Prop} {xs : List α} {ys : List β}
    (h : List.Forall₂ R xs ys) {y : β} (hy : y ∈ ys) : ∃ x ∈ xs, R x y := by
  induction h with
  | nil => cases hy
  | @cons x _ xs _ hxy _ ih =>
    rcases List.mem_cons.mp hy with rfl | hy
    · exact ⟨x, List.mem_cons_self, hxy⟩
    · obtain ⟨z, hz, hzy⟩ := ih hy
      exact ⟨z, List.mem_cons_of_mem x hz, hzy⟩

/-- A list whose items are all related to something is related to a list item by item. -/
theorem exists_forall₂ {R : α → β → Prop} {xs : List α} (h : ∀ x ∈ xs, ∃ y, R x y) :
    ∃ ys, List.Forall₂ R xs ys := by
  induction xs with
  | nil => exact ⟨[], .nil⟩
  | cons x xs ih =>
    obtain ⟨y, hy⟩ := h x List.mem_cons_self
    obtain ⟨ys, hys⟩ := ih fun z hz ↦ h z (List.mem_cons_of_mem x hz)
    exact ⟨y :: ys, .cons hy hys⟩

/-- And only such a list is. -/
theorem exists_forall₂_iff {R : α → β → Prop} {xs : List α} :
    (∃ ys, List.Forall₂ R xs ys) ↔ ∀ x ∈ xs, ∃ y, R x y := by
  refine ⟨fun ⟨ys, hys⟩ x hx ↦ ?_, exists_forall₂⟩
  obtain ⟨y, -, hy⟩ := exists_of_mem_forall₂ hys.flip hx
  exact ⟨y, hy⟩

/-- Every item of the result of a traversal comes from an item of the list. -/
theorem exists_of_mem_mapM {f : α → Except ε β} {xs : List α} {ys : List β}
    (h : xs.mapM f = .ok ys) {y : β} (hy : y ∈ ys) : ∃ x ∈ xs, f x = .ok y :=
  exists_of_mem_forall₂ (mapM_eq_ok_iff.mp h) hy

/-- Every item of the list leads to an item of the result. -/
theorem exists_ok_of_mem_mapM {f : α → Except ε β} {xs : List α} {ys : List β}
    (h : xs.mapM f = .ok ys) {x : α} (hx : x ∈ xs) : ∃ y ∈ ys, f x = .ok y :=
  exists_of_mem_forall₂ (mapM_eq_ok_iff.mp h).flip hx

/-- What is done to the result of every step may as well be done to the results together. -/
theorem mapM_map_eq_ok_iff {f : α → Except ε β} {g : β → γ} {xs : List α} {zs : List γ} :
    xs.mapM (fun x ↦ g <$> f x) = .ok zs ↔ ∃ ys, xs.mapM f = .ok ys ∧ ys.map g = zs := by
  induction xs generalizing zs with
  | nil => simp
  | cons x xs ih =>
    simp only [List.mapM_cons, bind_eq_ok_iff, map_eq_ok_iff, pure_eq_ok_iff, ih]
    constructor
    · rintro ⟨_, ⟨y, hy, rfl⟩, _, ⟨ys, hys, rfl⟩, rfl⟩
      exact ⟨y :: ys, ⟨y, hy, ys, hys, rfl⟩, rfl⟩
    · rintro ⟨_, ⟨y, hy, ys, hys, rfl⟩, rfl⟩
      exact ⟨g y, ⟨y, hy, rfl⟩, ys.map g, ⟨ys, hys, rfl⟩, rfl⟩

/-- A relation that says what comes out of each step, with something done to it, says of two lists
what comes out of the traversal. -/
theorem forall₂_iff_mapM_map {R : α → γ → Prop} {f : α → Except ε β} {g : β → γ}
    (h : ∀ x z, R x z ↔ g <$> f x = .ok z) {xs : List α} {zs : List γ} :
    List.Forall₂ R xs zs ↔ ∃ ys, xs.mapM f = .ok ys ∧ ys.map g = zs := by
  have hsteps : R = fun x z ↦ g <$> f x = .ok z := by
    ext x z
    exact h x z
  rw [hsteps, ← mapM_eq_ok_iff, mapM_map_eq_ok_iff]

/-- A view that every step keeps reads the same off the result and off the list. -/
theorem map_eq_of_mapM {f : α → Except ε β} {xs : List α} {ys : List β} {g : β → γ} {k : α → γ}
    (h : xs.mapM f = .ok ys) (hstep : ∀ x y, f x = .ok y → g y = k x) : ys.map g = xs.map k := by
  rw [← List.forall₂_eq_eq_eq, List.forall₂_map_left_iff, List.forall₂_map_right_iff]
  exact (mapM_eq_ok_iff.mp h).flip.imp fun y x hxy ↦ hstep x y hxy

/-- A run of steps along a list takes a step at every item. -/
theorem exists_step_of_foldlM {f : β → α → Except ε β} {xs : List α} {start final : β}
    (h : xs.foldlM f start = .ok final) {x : α} (hx : x ∈ xs) :
    ∃ before after, f before x = .ok after := by
  induction xs generalizing start with
  | nil => cases hx
  | cons y xs ih =>
    rw [List.foldlM_cons, bind_eq_ok_iff] at h
    obtain ⟨next, hnext, hrest⟩ := h
    rcases List.mem_cons.mp hx with rfl | hx
    · exact ⟨start, next, hnext⟩
    · exact ih hrest hx

/-- A run of steps fails at one of its items, after a run over the items before it. -/
theorem foldlM_eq_error_iff {f : β → α → Except ε β} {xs : List α} {start : β} {error : ε} :
    xs.foldlM f start = .error error ↔
      ∃ before x after reached, xs = before ++ x :: after ∧ before.foldlM f start = .ok reached ∧
        f reached x = .error error := by
  induction xs generalizing start with
  | nil => simp [pure, Except.pure]
  | cons head rest ih =>
    rw [List.foldlM_cons, bind_eq_error_iff]
    constructor
    · rintro (hhead | ⟨next, hnext, hrest⟩)
      · exact ⟨[], head, rest, start, rfl, rfl, hhead⟩
      · obtain ⟨before, x, after, reached, rfl, hreached, hx⟩ := ih.mp hrest
        refine ⟨head :: before, x, after, reached, rfl, ?_, hx⟩
        rw [List.foldlM_cons, hnext]
        exact hreached
    · rintro ⟨before, x, after, reached, hsplit, hreached, hx⟩
      cases before with
      | nil =>
        obtain ⟨rfl, rfl⟩ := List.cons.inj hsplit
        rw [List.foldlM_nil, pure_eq_ok_iff] at hreached
        exact .inl (hreached ▸ hx)
      | cons first before =>
        obtain ⟨rfl, rfl⟩ := List.cons.inj hsplit
        rw [List.foldlM_cons, bind_eq_ok_iff] at hreached
        obtain ⟨next, hnext, hreached⟩ := hreached
        exact .inr ⟨next, hnext, ih.mpr ⟨before, x, after, reached, rfl, hreached, hx⟩⟩

/-- A traversal asks only for the steps at the items of the list. -/
theorem mapM_congr {f g : α → Except ε β} {xs : List α} (h : ∀ x ∈ xs, f x = g x) :
    xs.mapM f = xs.mapM g := by
  induction xs with
  | nil => rfl
  | cons x xs ih =>
    rw [List.mapM_cons, List.mapM_cons, h x List.mem_cons_self,
      ih fun y hy ↦ h y (List.mem_cons_of_mem x hy)]

/-- A run of steps asks only for the steps at the items of the list. -/
theorem foldlM_congr {f g : β → α → Except ε β} {xs : List α}
    (h : ∀ x ∈ xs, ∀ before, f before x = g before x) (start : β) :
    xs.foldlM f start = xs.foldlM g start := by
  induction xs generalizing start with
  | nil => rfl
  | cons x xs ih =>
    rw [List.foldlM_cons, List.foldlM_cons, h x List.mem_cons_self]
    congr 1
    funext next
    exact ih (fun y hy ↦ h y (List.mem_cons_of_mem x hy)) next

/-! ### What may come out -/

/-- A computation gives a result of one kind or fails with an error of another. -/
def Meets (P : α → Prop) (E : ε → Prop) : Except ε α → Prop
  | .ok a => P a
  | .error error => E error

namespace Meets

variable {P : α → Prop} {Q : β → Prop} {E : ε → Prop}

theorem bind {x : Except ε α} {f : α → Except ε β} (h : Meets P E x)
    (hnext : ∀ a, P a → Meets Q E (f a)) : Meets Q E (x >>= f) := by
  cases x with
  | ok a => exact hnext a h
  | error error => exact h

theorem error {x : Except ε α} {error : ε} (h : Meets P E x) (hx : x = .error error) : E error := by
  rw [hx] at h
  exact h

/-- What every step of a run keeps, with errors of one kind, the whole run keeps. -/
theorem foldlM {f : α → β → Except ε α} {xs : List β}
    (hstep : ∀ x ∈ xs, ∀ before, P before → Meets P E (f before x)) {start : α} (h : P start) :
    Meets P E (xs.foldlM f start) := by
  induction xs generalizing start with
  | nil => exact h
  | cons x xs ih =>
    rw [List.foldlM_cons]
    exact (hstep x List.mem_cons_self start h).bind fun next hnext ↦
      ih (fun y hy ↦ hstep y (List.mem_cons_of_mem x hy)) hnext

end Meets

/-! ### Errors in view -/

/-- A computation fails with an error of which a view shows some part. -/
def Reports {δ : Type} (view : ε → Option δ) (x : Except ε α) (part : δ) : Prop :=
  ∃ error, x = .error error ∧ view error = some part

section Reports

variable {δ : Type} {view : ε → Option δ} {part : δ}

@[simp] theorem not_reports_ok {a : α} : ¬ Reports view (.ok a) part := by
  simp [Reports]

@[simp] theorem not_reports_pure {a : α} : ¬ Reports view (pure a) part :=
  not_reports_ok

@[simp] theorem reports_error_iff {error : ε} :
    Reports view (.error error : Except ε α) part ↔ view error = some part := by
  simp [Reports]

@[simp] theorem reports_throw_iff {error : ε} :
    Reports view (throw error : Except ε α) part ↔ view error = some part :=
  reports_error_iff

/-- What a sequence reports comes from the first step, or from the second on its result. -/
theorem reports_bind_iff {x : Except ε α} {f : α → Except ε β} :
    Reports view (x >>= f) part ↔
      Reports view x part ∨ ∃ a, x = .ok a ∧ Reports view (f a) part := by
  cases x <;> simp [Reports, bind, Except.bind]

theorem not_reports_bind {x : Except ε α} {f : α → Except ε β} (h : ¬ Reports view x part)
    (hnext : ∀ a, ¬ Reports view (f a) part) : ¬ Reports view (x >>= f) part := by
  rw [reports_bind_iff]
  rintro (hx | ⟨a, -, ha⟩)
  · exact h hx
  · exact hnext a ha

@[simp] theorem reports_map_iff {f : α → β} {x : Except ε α} :
    Reports view (f <$> x) part ↔ Reports view x part := by
  cases x <;> simp [Reports, Functor.map, Except.map]

theorem reports_mapError_iff {view : ε' → Option δ} {f : ε → ε'} {x : Except ε α} :
    Reports view (x.mapError f) part ↔ Reports (fun error ↦ view (f error)) x part := by
  cases x <;> simp [Reports, Except.mapError]

/-- A run of steps along a list reports nothing that no step does. -/
theorem not_reports_foldlM {f : β → α → Except ε β} {xs : List α}
    (h : ∀ x ∈ xs, ∀ before, ¬ Reports view (f before x) part) (start : β) :
    ¬ Reports view (xs.foldlM f start) part := by
  induction xs generalizing start with
  | nil => exact not_reports_pure
  | cons x xs ih =>
    rw [List.foldlM_cons]
    refine not_reports_bind (h x List.mem_cons_self start) fun next ↦ ?_
    exact ih (fun y hy ↦ h y (List.mem_cons_of_mem x hy)) next

/-- Nor does a traversal. -/
theorem not_reports_mapM {f : α → Except ε β} {xs : List α}
    (h : ∀ x ∈ xs, ¬ Reports view (f x) part) : ¬ Reports view (xs.mapM f) part := by
  induction xs with
  | nil => exact not_reports_pure
  | cons x xs ih =>
    rw [List.mapM_cons]
    refine not_reports_bind (h x List.mem_cons_self) fun y ↦ ?_
    exact not_reports_bind (ih fun z hz ↦ h z (List.mem_cons_of_mem x hz)) fun _ ↦ not_reports_pure

theorem not_reports_forM {f : α → Except ε Unit} {xs : List α}
    (h : ∀ x ∈ xs, ¬ Reports view (f x) part) : ¬ Reports view (xs.forM f) part := by
  rintro ⟨error, herror, hview⟩
  obtain ⟨before, x, after, rfl, -, hx⟩ := forM_eq_error_iff.mp herror
  exact h x (by simp) ⟨error, hx, hview⟩

end Reports

/-! ### Successes that persist -/

/-- Whatever one computation gives, another one gives as well. Where the first fails, nothing is
said of the second. -/
def Persists (x y : Except ε α) : Prop :=
  ∀ a, x = .ok a → y = .ok a

namespace Persists

variable {x y : Except ε α}

theorem refl (x : Except ε α) : Persists x x := fun _ h ↦ h

theorem of_error (error : ε) (y : Except ε α) : Persists (.error error) y := nofun

/-- A sequence persists step by step, since the later steps start from the same result. -/
theorem bind {f g : α → Except ε β} (hfirst : Persists x y) (hnext : ∀ a, Persists (f a) (g a)) :
    Persists (x >>= f) (y >>= g) := by
  intro b hb
  obtain ⟨a, ha, hb⟩ := bind_eq_ok_iff.mp hb
  exact bind_eq_ok_iff.mpr ⟨a, hfirst a ha, hnext a b hb⟩

/-- A traversal persists item by item. -/
theorem mapM {f g : α → Except ε β} (h : ∀ a, Persists (f a) (g a)) (xs : List α) :
    Persists (xs.mapM f) (xs.mapM g) := by
  intro ys hys
  rw [mapM_eq_ok_iff] at hys ⊢
  exact hys.imp fun a b hab ↦ h a b hab

theorem forM {f g : α → Except ε Unit} (h : ∀ a, Persists (f a) (g a)) (xs : List α) :
    Persists (xs.forM f) (xs.forM g) := by
  intro _ hpass
  exact forM_eq_ok_iff.mpr fun a ha ↦ h a () (forM_eq_ok_iff.mp hpass a ha)

end Persists

end Ontology.Outcome
