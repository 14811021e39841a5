/-
# Maps from texts to values

Supplies finite maps with texts as keys. A map lists its entries by strictly increasing key, which
the type records, so two maps with the same entries are the same value and every listing of a map
comes in one order. The order of texts is by code point.
-/

namespace TokenRelay

/-- Puts an entry into a list with increasing keys, in place of an entry with the same key. -/
def insertEntry {α : Type} (key : String) (value : α) : List (String × α) → List (String × α)
  | [] => [(key, value)]
  | (other, old) :: rest =>
    if key < other then (key, value) :: (other, old) :: rest
    else if other < key then (other, old) :: insertEntry key value rest
    else (key, value) :: rest

/-- Two texts of which neither comes first are equal. -/
private theorem eq_of_not_lt {first second : String} (h : ¬ first < second)
    (h' : ¬ second < first) : first = second :=
  String.le_antisymm (String.not_lt.1 h') (String.not_lt.1 h)

/-- The keys after an insertion are the old ones and the new one. -/
theorem mem_keys_insertEntry {α : Type} {key other : String} {value : α}
    {entries : List (String × α)} (h : other ∈ (insertEntry key value entries).map Prod.fst) :
    other = key ∨ other ∈ entries.map Prod.fst := by
  induction entries with
  | nil => simpa [insertEntry] using h
  | cons entry rest ih =>
    obtain ⟨name, old⟩ := entry
    simp only [insertEntry] at h
    split at h
    · simpa using h
    · split at h
      · simp only [List.map_cons, List.mem_cons] at h ⊢
        rcases h with h | h
        · exact .inr (.inl h)
        · rcases ih h with h | h
          · exact .inl h
          · exact .inr (.inr h)
      · simp only [List.map_cons, List.mem_cons] at h ⊢
        rcases h with h | h
        · exact .inl h
        · exact .inr (.inr h)

/-- Insertion keeps the keys increasing. -/
theorem sorted_insertEntry {α : Type} (key : String) (value : α) {entries : List (String × α)}
    (h : (entries.map Prod.fst).Pairwise (· < ·)) :
    ((insertEntry key value entries).map Prod.fst).Pairwise (· < ·) := by
  induction entries with
  | nil => simp [insertEntry]
  | cons entry rest ih =>
    obtain ⟨name, old⟩ := entry
    simp only [List.map_cons, List.pairwise_cons] at h
    simp only [insertEntry]
    split
    · next before =>
      simp only [List.map_cons, List.pairwise_cons, List.mem_cons]
      refine ⟨?_, h⟩
      rintro other (rfl | inside)
      · exact before
      · exact String.lt_trans before (h.1 other inside)
    · split
      · next after =>
        simp only [List.map_cons, List.pairwise_cons]
        refine ⟨fun other inside => ?_, ih h.2⟩
        rcases mem_keys_insertEntry inside with rfl | inside
        · exact after
        · exact h.1 other inside
      · next notBefore notAfter =>
        simp only [List.map_cons, List.pairwise_cons]
        rw [eq_of_not_lt notBefore notAfter]
        exact h

/-- A finite map with texts as keys. -/
@[ext]
structure KeyMap (α : Type) where
  entries : List (String × α)
  sorted : (entries.map Prod.fst).Pairwise (· < ·)

namespace KeyMap

variable {α : Type}

/-- The map without entries. -/
def empty : KeyMap α := ⟨[], by simp⟩

instance : Inhabited (KeyMap α) := ⟨empty⟩

/-- The map with one more entry, which takes the place of one with the same key. -/
def insert (map : KeyMap α) (key : String) (value : α) : KeyMap α :=
  ⟨insertEntry key value map.entries, sorted_insertEntry key value map.sorted⟩

/-- The map without the entry of a key. -/
def erase (map : KeyMap α) (key : String) : KeyMap α where
  entries := map.entries.filter fun entry => entry.1 ≠ key
  sorted := map.sorted.sublist ((List.filter_sublist).map Prod.fst)

/-- The value of a key. -/
def find? (map : KeyMap α) (key : String) : Option α :=
  map.entries.lookup key

/-- The number of entries. -/
def size (map : KeyMap α) : Nat := map.entries.length

/-- The map of a list of entries; the last of several entries with one key counts. -/
def ofList (entries : List (String × α)) : KeyMap α :=
  entries.foldl (fun map entry => map.insert entry.1 entry.2) empty

end KeyMap

end TokenRelay
