import Ontology.Identifier

/-!
Finite tables keyed by identifier. The entries are kept in strictly increasing order of their keys'
texts, so a table is determined by what it holds and not by the order of the writes, and listing
its entries is deterministic. `Table.get?_insert` and `Table.get?_erase` say what the two writes do
to every key, and `Table.ext_get?` that tables which hold the same are the same.
-/

set_option autoImplicit false
set_option relaxedAutoImplicit false

namespace Ontology

/-- A finite map from identifiers to values, as a list of entries in the order of their keys. -/
structure Table (α : Type) where
  entries : List (Identifier × α)
  sorted : entries.Pairwise fun a b ↦ a.1.text < b.1.text

namespace Table

variable {α : Type}

/-- The table without entries. -/
def empty : Table α := ⟨[], .nil⟩

instance : EmptyCollection (Table α) := ⟨empty⟩

instance : Inhabited (Table α) := ⟨empty⟩

instance [BEq α] : BEq (Table α) := ⟨fun a b ↦ a.entries == b.entries⟩

/-- The value of the first entry with a key. -/
def findEntry (key : Identifier) : List (Identifier × α) → Option α
  | [] => none
  | (other, held) :: rest => if key = other then some held else findEntry key rest

/-- The value at a key. -/
def get? (table : Table α) (key : Identifier) : Option α := findEntry key table.entries

/-- Whether a key has a value. -/
def contains (table : Table α) (key : Identifier) : Bool := (table.get? key).isSome

/-- The number of entries. -/
def size (table : Table α) : Nat := table.entries.length

/-- Whether there are no entries. -/
def isEmpty (table : Table α) : Bool := table.entries.isEmpty

/-- The keys in increasing order. -/
def keys (table : Table α) : List Identifier := table.entries.map (·.1)

theorem isSome_findEntry_iff {key : Identifier} {entries : List (Identifier × α)} :
    (findEntry key entries).isSome ↔ key ∈ entries.map (·.1) := by
  induction entries with
  | nil => simp [findEntry]
  | cons head rest ih => grind [findEntry]

theorem isSome_get?_iff {table : Table α} {key : Identifier} :
    (table.get? key).isSome ↔ key ∈ table.keys :=
  isSome_findEntry_iff

/-! ### Writing -/

/-- The entries with one more at its place, or with the value at its key replaced. -/
def insertEntry (key : Identifier) (value : α) : List (Identifier × α) → List (Identifier × α)
  | [] => [(key, value)]
  | (other, held) :: rest =>
    if key.text < other.text then (key, value) :: (other, held) :: rest
    else if key = other then (key, value) :: rest
    else (other, held) :: insertEntry key value rest

theorem mem_insertEntry {key : Identifier} {value : α} {entries : List (Identifier × α)}
    {entry : Identifier × α} (h : entry ∈ insertEntry key value entries) :
    entry = (key, value) ∨ entry ∈ entries := by
  induction entries with
  | nil => simpa [insertEntry] using h
  | cons head rest ih =>
    unfold insertEntry at h
    split at h
    · simpa using h
    · split at h
      · rcases List.mem_cons.1 h with h | h
        · exact .inl h
        · exact .inr (List.mem_cons_of_mem _ h)
      · rcases List.mem_cons.1 h with h | h
        · exact .inr (h ▸ List.mem_cons_self)
        · exact (ih h).imp_right (List.mem_cons_of_mem _)

theorem text_lt_of_not_lt {a b : Identifier} (hlt : ¬ a.text < b.text) (hne : a ≠ b) :
    b.text < a.text := by
  refine Std.lt_of_le_of_ne (String.not_lt.1 hlt) fun h ↦ hne ?_
  cases a
  cases b
  exact congrArg Identifier.mk h.symm

theorem pairwise_insertEntry {key : Identifier} {value : α} {entries : List (Identifier × α)}
    (h : entries.Pairwise fun a b ↦ a.1.text < b.1.text) :
    (insertEntry key value entries).Pairwise fun a b ↦ a.1.text < b.1.text := by
  induction entries with
  | nil => simp [insertEntry]
  | cons head rest ih =>
    obtain ⟨hhead, hrest⟩ := List.pairwise_cons.1 h
    unfold insertEntry
    split
    · next hlt =>
      refine List.pairwise_cons.2 ⟨fun entry hentry ↦ ?_, h⟩
      rcases List.mem_cons.1 hentry with rfl | hentry
      · exact hlt
      · exact String.lt_trans hlt (hhead entry hentry)
    · split
      · next heq =>
        subst heq
        exact List.pairwise_cons.2 ⟨hhead, hrest⟩
      · next hlt hne =>
        refine List.pairwise_cons.2 ⟨fun entry hentry ↦ ?_, ih hrest⟩
        rcases mem_insertEntry hentry with rfl | hentry
        · exact text_lt_of_not_lt hlt hne
        · exact hhead entry hentry

/-- The table with a value at a key, whatever stood there before. -/
def insert (table : Table α) (key : Identifier) (value : α) : Table α :=
  ⟨insertEntry key value table.entries, pairwise_insertEntry table.sorted⟩

/-- The table without a value at a key. -/
def erase (table : Table α) (key : Identifier) : Table α :=
  ⟨table.entries.filter (·.1 ≠ key), table.sorted.filter _⟩

/-- The table with every value replaced by its image. -/
def map {β : Type} (f : α → β) (table : Table α) : Table β :=
  ⟨table.entries.map fun entry ↦ (entry.1, f entry.2), table.sorted.map _ fun _ _ h ↦ h⟩

/-! ### Reading after a write -/

theorem findEntry_insertEntry (key other : Identifier) (value : α)
    (entries : List (Identifier × α)) :
    findEntry other (insertEntry key value entries) =
      if other = key then some value else findEntry other entries := by
  induction entries with
  | nil => rfl
  | cons head rest ih =>
    unfold insertEntry
    split
    · rfl
    · split <;> grind [findEntry]

theorem get?_insert (table : Table α) (key other : Identifier) (value : α) :
    (table.insert key value).get? other =
      if other = key then some value else table.get? other :=
  findEntry_insertEntry key other value table.entries

theorem findEntry_filter_ne (key other : Identifier) (entries : List (Identifier × α)) :
    findEntry other (entries.filter (·.1 ≠ key)) =
      if other = key then none else findEntry other entries := by
  induction entries with
  | nil => simp [findEntry]
  | cons head rest ih => grind [findEntry]

theorem get?_erase (table : Table α) (key other : Identifier) :
    (table.erase key).get? other = if other = key then none else table.get? other :=
  findEntry_filter_ne key other table.entries

/-! ### What a table holds -/

/-- Under sorted keys, the value at a key is the one that stands beside it. -/
theorem findEntry_eq_some_iff {key : Identifier} {value : α} {entries : List (Identifier × α)}
    (h : entries.Pairwise fun a b ↦ a.1.text < b.1.text) :
    findEntry key entries = some value ↔ (key, value) ∈ entries := by
  induction entries with
  | nil => simp [findEntry]
  | cons head rest ih =>
    obtain ⟨other, held⟩ := head
    obtain ⟨hhead, hrest⟩ := List.pairwise_cons.1 h
    rw [findEntry, List.mem_cons]
    split
    · next heq =>
      subst heq
      have hnot : (key, value) ∉ rest := fun hmem ↦ String.lt_irrefl key.text (hhead _ hmem)
      simp [hnot, eq_comm]
    · next hne =>
      rw [ih hrest]
      simp [hne]

theorem nodup_entries (table : Table α) : table.entries.Nodup := by
  refine table.sorted.imp fun {a b} hlt heq ↦ ?_
  subst heq
  exact String.lt_irrefl a.1.text hlt

/-- A table is determined by what it holds. -/
theorem ext_get? {first second : Table α} (h : ∀ key, first.get? key = second.get? key) :
    first = second := by
  have hmem (entry : Identifier × α) : entry ∈ first.entries ↔ entry ∈ second.entries := by
    rw [← findEntry_eq_some_iff first.sorted, ← findEntry_eq_some_iff second.sorted]
    exact iff_of_eq (congrArg (· = some entry.2) (h entry.1))
  have hperm : first.entries.Perm second.entries :=
    (List.perm_ext_iff_of_nodup first.nodup_entries second.nodup_entries).2 hmem
  have hentries : first.entries = second.entries := by
    refine hperm.eq_of_pairwise (fun a b _ _ hab hba ↦ ?_) first.sorted second.sorted
    exact absurd (String.lt_trans hab hba) (String.lt_irrefl _)
  cases first
  cases second
  cases hentries
  rfl

theorem findEntry_map {β : Type} (f : α → β) (key : Identifier)
    (entries : List (Identifier × α)) :
    findEntry key (entries.map fun entry ↦ (entry.1, f entry.2)) =
      (findEntry key entries).map f := by
  induction entries with
  | nil => rfl
  | cons head rest ih => grind [findEntry]

theorem get?_map {β : Type} (f : α → β) (table : Table α) (key : Identifier) :
    (table.map f).get? key = (table.get? key).map f :=
  findEntry_map f key table.entries

end Table

end Ontology
