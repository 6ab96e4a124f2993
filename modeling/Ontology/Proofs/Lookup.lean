import Mathlib.Data.List.Nodup

/-!
Lookups by key. The key of an entry is found (`exists_find?`), and when the keys are distinct, what
is found is the entry itself (`find?_eq_some`), from either end of the list.
-/

set_option autoImplicit false
set_option relaxedAutoImplicit false

namespace Ontology.Lookup

variable {α β : Type} [DecidableEq β] {key : α → β} {entries : List α} {entry : α}

/-- Looking up the key of an entry finds an entry of this key. -/
theorem exists_find? (key : α → β) (hmem : entry ∈ entries) :
    ∃ found, entries.find? (key · = key entry) = some found ∧ key found = key entry := by
  obtain ⟨found, hfound⟩ : ∃ found, entries.find? (key · = key entry) = some found := by
    rw [← Option.isSome_iff_exists, List.find?_isSome]
    exact ⟨entry, hmem, by simp⟩
  exact ⟨found, hfound, by simpa using List.find?_some hfound⟩

/-- Under distinct keys, looking up the key of an entry finds this entry. -/
theorem find?_eq_some (hdistinct : (entries.map key).Nodup) (hmem : entry ∈ entries) :
    entries.find? (key · = key entry) = some entry := by
  obtain ⟨found, hfound, hkey⟩ := exists_find? key hmem
  have hsame : found = entry :=
    List.inj_on_of_nodup_map hdistinct (List.mem_of_find?_eq_some hfound) hmem hkey
  rw [hfound, hsame]

/-- So what is found under a key are the entries of this key. -/
theorem find?_eq_some_iff (hdistinct : (entries.map key).Nodup) {sought : β} :
    entries.find? (key · = sought) = some entry ↔ entry ∈ entries ∧ key entry = sought := by
  constructor
  · intro hfound
    exact ⟨List.mem_of_find?_eq_some hfound, by simpa using List.find?_some hfound⟩
  · rintro ⟨hmem, rfl⟩
    exact find?_eq_some hdistinct hmem

/-- The same holds when the last entry of a key counts. -/
theorem find?_reverse_eq_some (hdistinct : (entries.map key).Nodup) (hmem : entry ∈ entries) :
    entries.reverse.find? (key · = key entry) = some entry := by
  refine find?_eq_some ?_ (List.mem_reverse.mpr hmem)
  rw [List.map_reverse, List.nodup_reverse]
  exact hdistinct

end Ontology.Lookup
