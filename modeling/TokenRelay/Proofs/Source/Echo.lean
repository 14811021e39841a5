/-
# Fragments of a text

Supplies what the fragments of a text are: they join to the text, none is empty, and each ends with
its first blank character, which only the last may lack. So what is put in front of a text and ends
with a blank gets fragments of its own, and a text has no more fragments than characters.
-/

import TokenRelay.Proofs.Session.Ideal
import TokenRelay.Source.Echo

namespace TokenRelay

namespace Source

/-- The fragments make up the text, and it is cut behind every blank character and nowhere else. -/
structure Cuts (text : String) (fragments : List String) : Prop where
  join_eq : String.join fragments = text
  nonempty : ∀ fragment ∈ fragments, fragment ≠ ""
  plain : ∀ fragment ∈ fragments, ∀ character ∈ fragment.toList.dropLast,
    Text.isBlank character = false
  /-- Only the last fragment may end with something else than a blank. -/
  ends : ∀ fragment ∈ fragments.dropLast, ∃ blank, fragment.toList.getLast? = some blank ∧
    Text.isBlank blank = true

theorem Cuts.nil : Cuts "" [] where
  join_eq := rfl
  nonempty := nofun
  plain := nofun
  ends := nofun

/-- Characters that are not blank are one fragment. -/
theorem Cuts.single {word : List Char} (there : word ≠ [])
    (plain : ∀ character ∈ word, Text.isBlank character = false) :
    Cuts (String.ofList word) [String.ofList word] where
  join_eq := by simp
  nonempty := by simpa [String.ofList_eq_empty_iff] using there
  plain := by
    intro fragment inside character within
    obtain rfl := List.mem_singleton.1 inside
    rw [String.toList_ofList] at within
    exact plain character (List.dropLast_subset word within)
  ends := nofun

/-- A blank ends a fragment. -/
theorem Cuts.cons {text : String} {fragments : List String} (cuts : Cuts text fragments)
    {word : List Char} (plain : ∀ character ∈ word, Text.isBlank character = false) {blank : Char}
    (isBlank : Text.isBlank blank = true) :
    Cuts (String.ofList (word ++ [blank]) ++ text)
      (String.ofList (word ++ [blank]) :: fragments) where
  join_eq := by rw [String.join_cons, cuts.join_eq]
  nonempty := by simpa [String.ofList_eq_empty_iff] using cuts.nonempty
  plain := by
    rw [List.forall_mem_cons]
    refine ⟨?_, cuts.plain⟩
    simpa using plain
  ends := by
    cases fragments with
    | nil => nofun
    | cons next rest =>
        rw [List.dropLast_cons_cons, List.forall_mem_cons]
        exact ⟨⟨blank, by simp, isBlank⟩, cuts.ends⟩

/-- The fragments found so far come first. -/
theorem cutFrom_eq (found : List String) (fragment text : List Char) :
    cutFrom found fragment text = found.reverse ++ cutFrom [] fragment text := by
  induction text generalizing found fragment with
  | nil =>
      simp only [cutFrom]
      split <;> simp
  | cons character rest ih =>
      simp only [cutFrom]
      split
      · rw [ih (_ :: found), ih [_]]
        simp
      · exact ih found _

/-- What is read next either goes on with a fragment or ends it. -/
theorem cutFrom_plain {word : List Char}
    (plain : ∀ character ∈ word, Text.isBlank character = false) (fragment rest : List Char) :
    cutFrom [] fragment (word ++ rest) = cutFrom [] (word.reverse ++ fragment) rest := by
  induction word generalizing fragment with
  | nil => rfl
  | cons character word ih =>
      rw [List.forall_mem_cons] at plain
      simp only [List.cons_append, cutFrom, plain.1, Bool.false_eq_true, if_false]
      rw [ih plain.2]
      simp

theorem cutFrom_blank {blank : Char} (isBlank : Text.isBlank blank = true)
    (fragment rest : List Char) :
    cutFrom [] fragment (blank :: rest) =
      String.ofList (fragment.reverse ++ [blank]) :: cutFrom [] [] rest := by
  simp only [cutFrom, isBlank, if_true]
  rw [cutFrom_eq]
  simp

/-- The fragments of a text cut it. The induction is on what is left to read, behind the beginning
of a fragment. -/
theorem cuts_cutFrom (fragment text : List Char)
    (plain : ∀ character ∈ fragment, Text.isBlank character = false) :
    Cuts (String.ofList (fragment.reverse ++ text)) (cutFrom [] fragment text) := by
  induction text generalizing fragment with
  | nil =>
      rw [cutFrom, List.append_nil]
      by_cases empty : fragment = []
      · subst empty
        exact .nil
      · have more : ¬ fragment.isEmpty = true := by simpa using empty
        rw [if_neg more]
        exact .single (by simpa using empty) (by simpa using plain)
  | cons character rest ih =>
      cases blank : Text.isBlank character with
      | true =>
          have ends : Cuts (String.ofList (fragment.reverse ++ [character]) ++ _) _ :=
            (ih [] (List.forall_mem_nil _)).cons (by simpa using plain) blank
          rw [cutFrom_blank blank]
          simpa [← String.ofList_append] using ends
      | false =>
          have goesOn := ih (character :: fragment)
            (List.forall_mem_cons.2 ⟨blank, plain⟩)
          simpa [cutFrom, blank] using goesOn

theorem cuts_fragments (text : String) : Cuts text (fragments text) := by
  have cuts := cuts_cutFrom [] text.toList (List.forall_mem_nil _)
  simpa [fragments] using cuts

/-- What ends with its only blank is a fragment of its own. -/
theorem fragments_append (word : List Char) (plain : word.any Text.isBlank = false) (blank : Char)
    (isBlank : Text.isBlank blank = true) (text : String) :
    fragments (String.ofList (word ++ [blank]) ++ text) =
      String.ofList (word ++ [blank]) :: fragments text := by
  have split : (String.ofList (word ++ [blank]) ++ text).toList = word ++ blank :: text.toList := by
    simp
  rw [fragments, split, cutFrom_plain (by simpa using plain), cutFrom_blank isBlank, fragments]
  simp

/-- The label is one fragment, so the fragments of the query follow it. -/
theorem fragments_echoLabel (query : String) :
    fragments (echoLabel ++ query) = echoLabel :: fragments query :=
  fragments_append ['m', 'o', 'c', 'k', '-', 'e', 'c', 'h', 'o', ':'] rfl ' ' rfl query

/-- Texts that are not empty have at least a character each. -/
theorem length_le_length_join {fragments : List String}
    (nonempty : ∀ fragment ∈ fragments, fragment ≠ "") :
    fragments.length ≤ (String.join fragments).length := by
  induction fragments with
  | nil => exact Nat.zero_le _
  | cons fragment rest ih =>
      rw [List.forall_mem_cons] at nonempty
      have more : fragment.length ≠ 0 := by simpa using nonempty.1
      have others := ih nonempty.2
      simp only [List.length_cons, String.join_cons, String.length_append]
      omega

theorem length_fragments_le (text : String) : (fragments text).length ≤ text.length := by
  have cuts := cuts_fragments text
  have bound := length_le_length_join cuts.nonempty
  rwa [cuts.join_eq] at bound

end Source

end TokenRelay
