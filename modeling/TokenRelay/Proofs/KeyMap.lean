/-
# Lookups in maps with texts as keys

Supplies what an insertion and a removal do to a lookup, and that a map lists every key once, so
that its entries are exactly what lookups find.
-/

import TokenRelay.KeyMap

namespace TokenRelay

/-- A lookup tries the first entry, and then the others. -/
theorem lookup_entry {κ α : Type} [BEq κ] [LawfulBEq κ] [DecidableEq κ] (other name : κ)
    (value : α) (rest : List (κ × α)) :
    ((name, value) :: rest).lookup other =
      if other = name then some value else rest.lookup other := by
  by_cases same : other = name
  · simp [same]
  · have missed : (other == name) = false := by simpa using same
    simp only [List.lookup_cons, missed, if_neg same]

/-- A key that no entry has is not found. -/
theorem lookup_eq_none {α : Type} {key : String} {entries : List (String × α)}
    (fresh : key ∉ entries.map Prod.fst) : entries.lookup key = none := by
  rw [List.lookup_eq_none_iff]
  intro entry inside
  have distinct : key ≠ entry.1 := by
    intro same
    exact fresh (List.mem_map.2 ⟨entry, inside, same.symm⟩)
  simpa using distinct

/-- Entries with different keys are what lookups find. -/
theorem mem_iff_lookup {α : Type} {entries : List (String × α)}
    (once : (entries.map Prod.fst).Nodup) (key : String) (value : α) :
    (key, value) ∈ entries ↔ entries.lookup key = some value := by
  induction entries with
  | nil => simp
  | cons entry rest ih =>
      obtain ⟨name, old⟩ := entry
      rw [List.map_cons, List.nodup_cons] at once
      rw [List.mem_cons, ih once.2, lookup_entry]
      by_cases same : key = name
      · subst name
        simp [lookup_eq_none once.1, eq_comm]
      · simp [same]

/-- What is listed with a value is found with it, and what is listed without one is not found. -/
theorem lookup_filterMap {α β : Type} {rows : List α} (key : α → String) (value : α → Option β)
    (once : (rows.map key).Nodup) {row : α} (inside : row ∈ rows) :
    (rows.filterMap fun row => (value row).map fun found => (key row, found)).lookup (key row) =
      value row := by
  induction rows with
  | nil => cases inside
  | cons first rest ih =>
      obtain ⟨fresh, once⟩ := List.nodup_cons.1 once
      have skipped : (rest.filterMap fun row =>
          (value row).map fun found => (key row, found)).lookup (key first) = none := by
        apply lookup_eq_none
        intro found
        simp only [List.mem_map, List.mem_filterMap, Option.map_eq_some_iff] at found
        obtain ⟨_, ⟨other, listed, _, _, rfl⟩, same⟩ := found
        exact fresh (same ▸ List.mem_map_of_mem listed)
      rw [List.filterMap_cons]
      rcases List.mem_cons.1 inside with rfl | listed
      · cases chosen : value row with
        | none => exact skipped
        | some found => exact (lookup_entry ..).trans (if_pos rfl)
      · have other : key row ≠ key first := fun same => fresh (same ▸ List.mem_map_of_mem listed)
        cases value first with
        | none => exact ih once listed
        | some found => exact (lookup_entry ..).trans ((if_neg other).trans (ih once listed))

/-- An inserted entry is found under its key, and every other key finds what it found before. -/
theorem lookup_insertEntry {α : Type} (key other : String) (value : α)
    (entries : List (String × α)) :
    (insertEntry key value entries).lookup other =
      if other = key then some value else entries.lookup other := by
  induction entries with
  | nil => rw [insertEntry, lookup_entry]
  | cons entry rest ih =>
      obtain ⟨name, old⟩ := entry
      by_cases before : key < name
      · rw [insertEntry, if_pos before, lookup_entry]
      · by_cases after : name < key
        · have distinct : key ≠ name := fun same => String.lt_irrefl key (same ▸ after)
          rw [insertEntry, if_neg before, if_pos after, lookup_entry, lookup_entry, ih]
          by_cases same : other = key
          · simp [same, distinct]
          · simp [same]
        · have same : key = name :=
            String.le_antisymm (String.not_lt.1 after) (String.not_lt.1 before)
          subst name
          rw [insertEntry, if_neg before, if_neg after, lookup_entry, lookup_entry]
          by_cases found : other = key
          · simp [found]
          · simp [found]

/-- An insertion brings in its own entry only. -/
theorem mem_of_mem_insertEntry {α : Type} {key : String} {value : α} {entry : String × α}
    {entries : List (String × α)} (inside : entry ∈ insertEntry key value entries) :
    entry = (key, value) ∨ entry ∈ entries := by
  fun_induction insertEntry key value entries with
  | case1 => simpa using inside
  | case2 => simpa using inside
  | case3 other old rest _ _ ih =>
      rcases List.mem_cons.1 inside with rfl | later
      · exact .inr List.mem_cons_self
      · exact (ih later).imp_right (List.mem_cons_of_mem _)
  | case4 => exact (List.mem_cons.1 inside).imp_right (List.mem_cons_of_mem _)

/-- Leaving out a key makes it unknown and every other key finds what it found before. -/
theorem lookup_filter_ne {κ α : Type} [BEq κ] [LawfulBEq κ] [DecidableEq κ] (key other : κ)
    (entries : List (κ × α)) :
    (entries.filter fun entry => entry.1 ≠ key).lookup other =
      if other = key then none else entries.lookup other := by
  induction entries with
  | nil => simp
  | cons entry rest ih =>
      obtain ⟨name, value⟩ := entry
      rw [lookup_entry]
      by_cases dropped : name = key
      · rw [List.filter_cons_of_neg (by simpa using dropped), ih]
        by_cases same : other = key
        · simp [same]
        · have missed : other ≠ name := fun found => same (found.trans dropped)
          simp [same, missed]
      · rw [List.filter_cons_of_pos (by simpa using dropped), lookup_entry, ih]
        by_cases found : other = name
        · simp [found, dropped]
        · simp [found]

/-- A key behind all others is put at the end. -/
theorem insertEntry_of_last {α : Type} {key : String} {value : α} {entries : List (String × α)}
    (last : ∀ other ∈ entries.map Prod.fst, other < key) :
    insertEntry key value entries = entries ++ [(key, value)] := by
  induction entries with
  | nil => rfl
  | cons entry rest ih =>
      obtain ⟨name, old⟩ := entry
      have after : name < key := last name List.mem_cons_self
      have notBefore : ¬ key < name := fun before =>
        String.lt_irrefl key (String.lt_trans before after)
      rw [insertEntry, if_neg notBefore, if_pos after,
        ih fun other inside => last other (List.mem_cons_of_mem _ inside), List.cons_append]

namespace KeyMap

variable {α : Type}

@[simp]
theorem find?_empty (key : String) : (empty : KeyMap α).find? key = none := rfl

theorem find?_insert (map : KeyMap α) (key other : String) (value : α) :
    (map.insert key value).find? other = if other = key then some value else map.find? other :=
  lookup_insertEntry key other value map.entries

theorem find?_erase (map : KeyMap α) (key other : String) :
    (map.erase key).find? other = if other = key then none else map.find? other :=
  lookup_filter_ne key other map.entries

@[simp]
theorem find?_insert_self (map : KeyMap α) (key : String) (value : α) :
    (map.insert key value).find? key = some value := by
  simp [find?_insert]

theorem find?_insert_of_ne (map : KeyMap α) {key other : String} (value : α)
    (distinct : other ≠ key) : (map.insert key value).find? other = map.find? other := by
  simp [find?_insert, distinct]

/-- No key is listed twice. -/
theorem nodup_keys (map : KeyMap α) : (map.entries.map Prod.fst).Nodup :=
  List.Pairwise.imp (fun before => String.ne_of_lt before) map.sorted

/-- Of entries with increasing keys nothing is moved. -/
theorem entries_ofList {entries : List (String × α)}
    (sorted : (entries.map Prod.fst).Pairwise (· < ·)) : (ofList entries).entries = entries := by
  have onto (rest : List (String × α)) (map : KeyMap α)
      (increasing : ((map.entries ++ rest).map Prod.fst).Pairwise (· < ·)) :
      (rest.foldl (fun map entry => map.insert entry.1 entry.2) map).entries =
        map.entries ++ rest := by
    induction rest generalizing map with
    | nil => exact (List.append_nil _).symm
    | cons entry rest ih =>
        have put : (map.insert entry.1 entry.2).entries = map.entries ++ [entry] := by
          apply insertEntry_of_last
          intro other inside
          rw [List.map_append, List.pairwise_append] at increasing
          exact increasing.2.2 other inside entry.1 List.mem_cons_self
        have onward := ih (map.insert entry.1 entry.2) (by simpa [put] using increasing)
        rw [List.foldl_cons, onward, put, List.append_assoc]
        rfl
  exact onto entries empty sorted

/-- The map that is made of the entries of a map is that map. -/
theorem ofList_entries (map : KeyMap α) : ofList map.entries = map :=
  KeyMap.ext (entries_ofList map.sorted)

/-- Of entries with different keys each is found under its own. -/
theorem find?_ofList {entries : List (String × α)} (distinct : (entries.map Prod.fst).Nodup)
    (key : String) : (ofList entries).find? key = entries.lookup key := by
  have onto (rest : List (String × α)) (map : KeyMap α) (once : (rest.map Prod.fst).Nodup) :
      (rest.foldl (fun map entry => map.insert entry.1 entry.2) map).find? key =
        (rest.lookup key).or (map.find? key) := by
    induction rest generalizing map with
    | nil => rfl
    | cons entry rest ih =>
        obtain ⟨name, value⟩ := entry
        rw [List.map_cons, List.nodup_cons] at once
        rw [List.foldl_cons, ih _ once.2, find?_insert, lookup_entry]
        by_cases same : key = name
        · simp [same, lookup_eq_none once.1]
        · simp [same]
  exact (onto entries empty distinct).trans Option.or_none

/-- No entry of a map comes from elsewhere than the list it was made of. -/
theorem mem_of_mem_ofList {entries : List (String × α)} {entry : String × α}
    (inside : entry ∈ (ofList entries).entries) : entry ∈ entries := by
  have onto (rest : List (String × α)) (map : KeyMap α)
      (found : entry ∈ (rest.foldl (fun map entry => map.insert entry.1 entry.2) map).entries) :
      entry ∈ map.entries ∨ entry ∈ rest := by
    induction rest generalizing map with
    | nil => exact .inl found
    | cons first rest ih =>
        rcases ih _ found with before | later
        · rcases mem_of_mem_insertEntry before with rfl | old
          · exact .inr List.mem_cons_self
          · exact .inl old
        · exact .inr (List.mem_cons_of_mem _ later)
  exact (onto entries empty inside).resolve_left List.not_mem_nil

/-- The entries of a map are what its lookups find. -/
theorem mem_entries_iff (map : KeyMap α) (key : String) (value : α) :
    (key, value) ∈ map.entries ↔ map.find? key = some value :=
  mem_iff_lookup map.nodup_keys key value

/-- The keys of a map are those that lookups know. -/
theorem mem_keys_iff (map : KeyMap α) (key : String) :
    key ∈ map.entries.map Prod.fst ↔ (map.find? key).isSome := by
  rw [Option.isSome_iff_exists, List.mem_map]
  constructor
  · rintro ⟨⟨name, value⟩, inside, rfl⟩
    exact ⟨value, (map.mem_entries_iff _ _).1 inside⟩
  · rintro ⟨value, found⟩
    exact ⟨(key, value), (map.mem_entries_iff _ _).2 found, rfl⟩

end KeyMap

end TokenRelay
