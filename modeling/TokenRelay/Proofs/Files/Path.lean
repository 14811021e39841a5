/-
# Names that are joined to paths

Supplies what it means to put a name of its own behind a path: the path stays what it was, it starts
where it started, and the name is one more at the end of its names.
-/

import TokenRelay.Files.Path

namespace TokenRelay

namespace Path

/-- A name of its own: it has no slash and is neither empty nor one of the two names that mean the
directory itself and the one above. -/
structure IsName (name : String) : Prop where
  undivided : '/' ∉ name.toList
  filled : name ≠ ""
  notHere : name ≠ "."
  notAbove : name ≠ ".."

/-- Without slashes and dots every text but the empty one is a name. -/
theorem IsName.of_forall {name : String} (filled : name ≠ "")
    (plain : ∀ character ∈ name.toList, character ≠ '/' ∧ character ≠ '.') : IsName name where
  undivided inside := (plain _ inside).1 rfl
  filled := filled
  notHere same := (plain '.' (by simp [same])).2 rfl
  notAbove same := (plain '.' (by simp [same])).2 rfl

theorem IsName.isAbsolute_eq {name : String} (own : IsName name) : isAbsolute name = false := by
  rw [isAbsolute]
  cases first : name.toList.head? with
  | none => rfl
  | some character =>
      have distinct : character ≠ '/' := by
        rintro rfl
        exact own.undivided (List.mem_of_head? first)
      simpa using distinct

/-- A slash ends the name that is being read. -/
theorem namesFrom_append_slash (name first rest : List Char) :
    namesFrom name (first ++ '/' :: rest) = namesFrom name first ++ namesFrom [] rest := by
  induction first generalizing name with
  | nil => simp [namesFrom]
  | cons character first ih =>
      rw [List.cons_append, namesFrom, namesFrom]
      split
      · rw [ih, List.cons_append]
      · rw [ih]

theorem namesFrom_of_undivided (name : List Char) {text : List Char} (undivided : '/' ∉ text) :
    namesFrom name text = [String.ofList (name.reverse ++ text)] := by
  induction text generalizing name with
  | nil => simp [namesFrom]
  | cons character text ih =>
      rw [List.mem_cons, not_or] at undivided
      rw [namesFrom, if_neg (Ne.symm undivided.1), ih _ undivided.2]
      simp

theorem IsName.names_eq {name : String} (own : IsName name) : names name = [name] := by
  rw [names, namesFrom_of_undivided [] own.undivided]
  simp [own.filled, own.notHere]

@[simp]
theorem join_empty (path : String) : join "" path = path := by simp [join]

/-- A path with a name behind it is the path, a slash if there is none yet, and the name. -/
theorem IsName.join_eq {name : String} (own : IsName name) (path : String) :
    join path name = if path = "" ∨ path.toList.getLast? = some '/' then path ++ name
      else path ++ "/" ++ name := by
  rw [join, own.isAbsolute_eq, Bool.false_or]
  by_cases empty : path = ""
  · simp [empty]
  · simp [empty]

theorem IsName.exists_join_eq {name : String} (own : IsName name) (path : String) :
    ∃ added, join path name = path ++ added := by
  rw [own.join_eq path]
  split
  · exact ⟨name, rfl⟩
  · exact ⟨"/" ++ name, String.append_assoc⟩

theorem IsName.join_ne_empty {name : String} (own : IsName name) (path : String) :
    join path name ≠ "" := by
  intro empty
  have characters := congrArg String.toList empty
  have filled := own.filled
  rw [Ne, ← String.toList_inj] at filled
  rw [own.join_eq path] at characters
  split at characters <;> simp_all

/-- A path with a name behind it starts where the path starts. -/
theorem IsName.isAbsolute_join {name : String} (own : IsName name) (path : String) :
    isAbsolute (join path name) = isAbsolute path := by
  by_cases empty : path = ""
  · subst path
    rw [join_empty, own.isAbsolute_eq]
    rfl
  · obtain ⟨added, whole⟩ := own.exists_join_eq path
    obtain ⟨first, rest, characters⟩ := List.exists_cons_of_ne_nil fun none : path.toList = [] =>
      empty (String.toList_inj.1 none)
    rw [whole, isAbsolute, isAbsolute, String.toList_append, characters, List.cons_append,
      List.head?_cons, List.head?_cons]

/-- The name is one more name of the path. -/
theorem IsName.names_join {name : String} (own : IsName name) (path : String) :
    names (join path name) = names path ++ [name] := by
  by_cases empty : path = ""
  · subst path
    rw [join_empty, own.names_eq]
    rfl
  · have last : namesFrom [] name.toList = [name] := by
      rw [namesFrom_of_undivided [] own.undivided, List.reverse_nil, List.nil_append,
        String.ofList_toList]
    have kept : [name].filter (fun name => name ≠ "" ∧ name ≠ ".") = [name] := by
      simp [own.filled, own.notHere]
    rw [own.join_eq path]
    split
    · next ending =>
      -- The slash at the end leaves an empty name behind, which does not count.
      obtain ⟨before, whole⟩ := List.getLast?_eq_some_iff.1 (ending.resolve_left empty)
      rw [names, names, String.toList_append, whole, List.append_assoc, List.singleton_append,
        namesFrom_append_slash, namesFrom_append_slash, last, List.filter_append, kept,
        List.filter_append]
      simp [namesFrom]
    · have slash : (path ++ "/" ++ name).toList = path.toList ++ '/' :: name.toList := by
        simp [String.toList_append]
      rw [names, slash, namesFrom_append_slash, last, List.filter_append, kept, names]

/-- Different names make different paths. -/
theorem IsName.join_inj {first second : String} (own : IsName first) (own' : IsName second)
    {path : String} (same : join path first = join path second) : first = second := by
  have listed := congrArg names same
  rw [own.names_join, own'.names_join] at listed
  exact List.singleton_inj.1 (List.append_cancel_left listed)

end Path

end TokenRelay
