/-
# Key rings as maps

Supplies that a key ring is a map from keys to owners with a mark on every key that has been used.
Whatever has been put in and used before, a key is known exactly if it was put in, by a well-formed
entry or afterwards. It belongs to the owner it was given last, and counts as used exactly if it has
been used since. This needs digests to tell the keys apart, since a ring sees nothing else of them.
-/

import Mathlib.Data.List.TakeDrop
import TokenRelay.Proofs.Digest
import TokenRelay.Proofs.Server.Discretion
import TokenRelay.Proofs.Text.Utf8

namespace TokenRelay

namespace KeyEntry

/-- A text consists of an owner and a key with a colon between them, neither of them blank. Blanks
around either do not count, and the owner holds no colon. -/
def IsWritten (text : String) (entry : KeyEntry) : Prop :=
  ∃ before after, text.toList = before ++ ':' :: after ∧ ':' ∉ before ∧
    entry.owner = String.ofList (Text.trimChars before) ∧
    entry.key = String.ofList (Text.trimChars after) ∧ entry.owner ≠ "" ∧ entry.key ≠ ""

/-- A text is cut at its first colon. -/
theorem atColon?_eq_some_iff {text : String} {before after : List Char} :
    atColon? text = some (before, after) ↔
      text.toList = before ++ ':' :: after ∧ ':' ∉ before := by
  unfold atColon?
  rw [List.span_eq_takeWhile_dropWhile]
  constructor
  · intro found
    split at found
    · cases found
    · next name first rest cut =>
      obtain ⟨rfl, rfl⟩ := Prod.mk.inj (Option.some.inj found)
      obtain ⟨rfl, behind⟩ := Prod.mk.inj cut
      have colon := List.head?_dropWhile_not (fun character : Char => decide (character ≠ ':'))
        text.toList
      rw [behind] at colon
      simp only [List.head?_cons, decide_not, Bool.not_eq_false', decide_eq_true_eq] at colon
      subst first
      refine ⟨?_, fun inside => ?_⟩
      · exact (behind ▸ List.takeWhile_append_dropWhile).symm
      · simpa using List.all_eq_true.1 List.all_takeWhile ':' inside
  · rintro ⟨whole, none⟩
    have other : ∀ character ∈ before, decide (character ≠ ':') = true := by
      intro character inside
      simpa using fun same : character = ':' => none (same ▸ inside)
    rw [whole, List.takeWhile_append_of_pos other, List.dropWhile_append_of_pos other]
    simp

/-- Exactly the well-formed texts are read as entries. -/
theorem ofText?_eq_some_iff {text : String} {entry : KeyEntry} :
    ofText? text = some entry ↔ IsWritten text entry := by
  unfold ofText? IsWritten
  constructor
  · intro found
    split at found
    · cases found
    · next before after cut =>
      obtain ⟨whole, none⟩ := atColon?_eq_some_iff.1 cut
      dsimp only at found
      split at found
      · cases found
      · next filled =>
        cases found
        simp only [Bool.or_eq_true, List.isEmpty_iff, not_or] at filled
        refine ⟨before, after, whole, none, rfl, rfl, ?_, ?_⟩
        · simpa [← String.toList_inj] using filled.1
        · simpa [← String.toList_inj] using filled.2
  · rintro ⟨before, after, whole, none, owner, key, hasOwner, hasKey⟩
    have cut := atColon?_eq_some_iff.2 ⟨whole, none⟩
    obtain ⟨_, _⟩ := entry
    simp only at owner key hasOwner hasKey
    subst owner key
    have filled : ¬ ((Text.trimChars before).isEmpty || (Text.trimChars after).isEmpty) = true := by
      rw [Ne, ← String.toList_inj] at hasOwner hasKey
      simpa using And.intro hasOwner hasKey
    simp only [cut, if_neg filled]

end KeyEntry

namespace KeyRing

/-- What is done with a ring. -/
inductive Step where
  | insert (owner key : String)
  | use (key : String)
  deriving DecidableEq

/-- The key that a step is about. -/
def Step.key : Step → String
  | .insert _ key => key
  | .use key => key

/-- The ring after a step. -/
def step (ring : KeyRing) : Step → KeyRing
  | .insert owner key => ring.insert owner key
  | .use key => (ring.use key).2

/-- The ring after steps, one after the other. -/
def after (ring : KeyRing) (steps : List Step) : KeyRing :=
  steps.foldl step ring

/-- All that is done with a ring of entries: every entry puts its key in, and the steps follow. -/
def history (entries : List String) (steps : List Step) : List Step :=
  (entries.filterMap KeyEntry.ofText?).map (fun entry => .insert entry.owner entry.key) ++ steps

theorem after_ofEntries (entries : List String) (steps : List Step) :
    (ofEntries entries).after steps = after {} (history entries steps) := by
  rw [after, after, history, List.foldl_append, List.foldl_map]
  rfl

theorem history_append (entries : List String) (earlier later : List Step) :
    history entries (earlier ++ later) = history entries earlier ++ later :=
  (List.append_assoc ..).symm

theorem insert_mem_history {entries : List String} {steps : List Step} {owner key : String} :
    .insert owner key ∈ history entries steps ↔
      (∃ text ∈ entries, KeyEntry.IsWritten text ⟨owner, key⟩) ∨ .insert owner key ∈ steps := by
  simp only [history, List.mem_append, List.mem_map, List.mem_filterMap, Step.insert.injEq]
  refine or_congr ⟨?_, ?_⟩ Iff.rfl
  · rintro ⟨entry, ⟨text, inside, read⟩, rfl, rfl⟩
    exact ⟨text, inside, KeyEntry.ofText?_eq_some_iff.1 read⟩
  · rintro ⟨text, inside, written⟩
    exact ⟨⟨owner, key⟩, ⟨text, inside, KeyEntry.ofText?_eq_some_iff.2 written⟩, rfl, rfl⟩

/-- The digest does not collide on the keys. -/
def DigestsDiffer (keys : List String) : Prop :=
  ∀ first ∈ keys, ∀ second ∈ keys,
    Digest.sha256 (Text.Utf8.encode first.toList) =
      Digest.sha256 (Text.Utf8.encode second.toList) → first = second

instance (keys : List String) : Decidable (DigestsDiffer keys) :=
  inferInstanceAs (Decidable (∀ first ∈ keys, ∀ second ∈ keys, _ → first = second))

theorem DigestsDiffer.eq_of_digest {keys : List String} (differ : DigestsDiffer keys)
    {first second : String} (inside : first ∈ keys) (inside' : second ∈ keys)
    (same : digest first = digest second) : first = second :=
  differ first inside second inside' (Text.Hex.encode_injective (String.ofList_injective same))

/-- Fewer steps have fewer keys. -/
theorem DigestsDiffer.of_sublist {key : String} {steps others : List Step}
    (differ : DigestsDiffer (key :: steps.map Step.key)) (fewer : others.Sublist steps) :
    DigestsDiffer (key :: others.map Step.key) := by
  have within := ((fewer.map Step.key).cons_cons key).subset
  exact fun first inside second inside' => differ first (within inside) second (within inside')

/-- What a map would have of a key after a step, given what it had before. -/
def remember (key : String) (known : Option KeyRecord) : Step → Option KeyRecord
  | .insert owner other => if other = key then some ⟨owner, digest key, false⟩ else known
  | .use other => if other = key then known.map ({ · with used := true }) else known

/-- A ring does with a step what a map would do. -/
theorem find?_step (ring : KeyRing) {key : String} {step : Step}
    (differ : digest step.key = digest key → step.key = key) :
    (ring.step step).records.find? (digest key) =
      remember key (ring.records.find? (digest key)) step := by
  cases step with
  | insert owner other =>
      rw [KeyRing.step, insert, KeyMap.find?_insert, remember]
      by_cases same : other = key
      · rw [if_pos (congrArg digest same).symm, if_pos same, same]
      · rw [if_neg fun digests => same (differ digests.symm), if_neg same]
  | use other =>
      by_cases same : other = key
      · subst other
        rw [KeyRing.step, use, remember, if_pos rfl]
        split
        · next unknown => rw [unknown, Option.map_none]
        · next record found => rw [KeyMap.find?_insert_self, found, Option.map_some]
      · rw [KeyRing.step, use, remember, if_neg same]
        split
        · rfl
        · exact KeyMap.find?_insert_of_ne _ _ fun digests => same (differ digests.symm)

/-- So it has of every key what a map has after the same steps. -/
theorem find?_after (ring : KeyRing) {key : String} {steps : List Step}
    (differ : DigestsDiffer (key :: steps.map Step.key)) :
    (ring.after steps).records.find? (digest key) =
      steps.foldl (remember key) (ring.records.find? (digest key)) := by
  induction steps generalizing ring with
  | nil => rfl
  | cons step steps ih =>
      have first : digest step.key = digest key → step.key = key :=
        differ.eq_of_digest (by simp) (by simp)
      have rest := differ.of_sublist (List.sublist_cons_self step steps)
      rw [after, List.foldl_cons, ← after, ih _ rest, find?_step ring first, List.foldl_cons]

/-- The answer about a key is what a map has of it. -/
theorem fst_use_after {entries : List String} {steps : List Step} {key : String}
    (differ : DigestsDiffer (key :: (history entries steps).map Step.key)) :
    (((ofEntries entries).after steps).use key).1 =
      (history entries steps).foldl (remember key) none := by
  rw [fst_use, after_ofEntries, find?_after _ differ]
  rfl

/-- As long as a key is not put in again, only its mark can change. -/
theorem foldl_remember {key : String} {steps : List Step}
    (kept : ∀ owner, .insert owner key ∉ steps) (known : Option KeyRecord) :
    steps.foldl (remember key) known =
      known.map fun record => { record with used := record.used || decide (.use key ∈ steps) } := by
  induction steps generalizing known with
  | nil => simp
  | cons step steps ih =>
      have later : ∀ owner, .insert owner key ∉ steps := fun owner inside =>
        kept owner (List.mem_cons_of_mem _ inside)
      rw [List.foldl_cons, ih later]
      cases step with
      | insert owner other =>
          have distinct : other ≠ key := by
            rintro rfl
            exact kept owner List.mem_cons_self
          simp [remember, distinct]
      | use other =>
          by_cases same : other = key
          · subst other
            simp [remember, Function.comp_def]
          · simp [remember, same, Ne.symm same]

/-- A key that was put in was put in a last time. -/
theorem exists_last_insert {key : String} {steps : List Step}
    (put : ∃ owner, .insert owner key ∈ steps) :
    ∃ earlier owner later, steps = earlier ++ .insert owner key :: later ∧
      ∀ other, .insert other key ∉ later := by
  induction steps with
  | nil =>
      obtain ⟨_, inside⟩ := put
      cases inside
  | cons step steps ih =>
      by_cases again : ∃ owner, .insert owner key ∈ steps
      · obtain ⟨earlier, owner, later, rfl, last⟩ := ih again
        exact ⟨step :: earlier, owner, later, rfl, last⟩
      · obtain ⟨owner, inside⟩ := put
        have first : Step.insert owner key = step :=
          (List.mem_cons.1 inside).resolve_right fun within => again ⟨owner, within⟩
        exact ⟨[], owner, steps, first ▸ rfl, fun other within => again ⟨other, within⟩⟩

/-- What a map has of a key that was put in: its last owner, and whether it has been used since. -/
theorem foldl_remember_last (key owner : String) (earlier : List Step) {later : List Step}
    (last : ∀ other, .insert other key ∉ later) :
    (earlier ++ .insert owner key :: later).foldl (remember key) none =
      some ⟨owner, digest key, decide (.use key ∈ later)⟩ := by
  rw [List.foldl_append, List.foldl_cons, foldl_remember last]
  simp [remember]

/-- A ring of entries is a map from keys to owners with a mark, whatever is done with it, if digests
tell the keys apart. A key is unknown exactly if no well-formed entry and no later insertion had it.
A key that is known belongs to its last owner, is shown by its digest, and is marked exactly if it
has been used since it was given to that owner. To use another key, or one that is unknown, changes
nothing. -/
theorem use_recalls_history (entries : List String) (steps : List Step) (key : String)
    (differ : DigestsDiffer (key :: (history entries steps).map Step.key)) :
    let answer := (((ofEntries entries).after steps).use key).1
    (answer = none ↔ ¬ ∃ owner,
      (∃ text ∈ entries, KeyEntry.IsWritten text ⟨owner, key⟩) ∨ .insert owner key ∈ steps) ∧
    (∀ record, answer = some record ↔ ∃ earlier later,
      history entries steps = earlier ++ .insert record.owner key :: later ∧
      (∀ owner, .insert owner key ∉ later) ∧
      record.digest = digest key ∧ (record.used = true ↔ .use key ∈ later)) ∧
    ∀ earlier other later, steps = earlier ++ .use other :: later →
      other ≠ key ∨ (((ofEntries entries).after earlier).use other).1 = none →
      (((ofEntries entries).after (earlier ++ later)).use key).1 = answer := by
  intro answer
  have remembered : answer = (history entries steps).foldl (remember key) none :=
    fst_use_after differ
  refine ⟨?_, fun record => ⟨fun found => ?_, ?_⟩, ?_⟩
  · simp only [← insert_mem_history]
    constructor
    · rintro unknown put
      obtain ⟨earlier, owner, later, whole, last⟩ := exists_last_insert put
      rw [remembered, whole, foldl_remember_last key owner earlier last] at unknown
      cases unknown
    · intro never
      rw [remembered, foldl_remember (not_exists.1 never), Option.map_none]
  · have put : ∃ owner, .insert owner key ∈ history entries steps := by
      refine Classical.byContradiction fun never => ?_
      rw [remembered, foldl_remember (not_exists.1 never)] at found
      cases found
    obtain ⟨earlier, owner, later, whole, last⟩ := exists_last_insert put
    rw [remembered, whole, foldl_remember_last key owner earlier last] at found
    cases found
    exact ⟨earlier, later, whole, last, rfl, decide_eq_true_iff⟩
  · rintro ⟨earlier, later, whole, last, shown, marked⟩
    rw [remembered, whole, foldl_remember_last key record.owner earlier last, ← shown,
      decide_eq_decide.2 marked.symm, Bool.decide_coe]
  · rintro earlier other later rfl harmless
    have fewer := differ.of_sublist
      (((List.sublist_cons_self (.use other) later).append_left earlier).append_left _)
    rw [fst_use_after fewer, remembered, history_append, history_append, List.foldl_append,
      List.foldl_append, List.foldl_cons]
    congr 1
    -- What the step finds is what the map had, so a key that was unknown stays unknown.
    rcases harmless with distinct | unknown
    · rw [remember, if_neg distinct]
    · by_cases same : other = key
      · subst other
        have before := differ.of_sublist ((List.sublist_append_left earlier _).append_left _)
        rw [← fst_use_after before, unknown, remember, if_pos rfl, Option.map_none]
      · rw [remember, if_neg same]

/-- A key that goes to somebody else is marked for its last owner only. -/
theorem carol_has_used_key :
    let entries := ["alice:k1", "no-owner", " bob : k2 "]
    let steps : List Step := [.use "k2", .insert "carol" "k2", .use "k3", .use "k2"]
    DigestsDiffer ("k2" :: (history entries steps).map Step.key) ∧
      (((ofEntries entries).after steps).use "k2").1 = some ⟨"carol", digest "k2", true⟩ := by
  intro entries steps
  have differ : DigestsDiffer ("k2" :: (history entries steps).map Step.key) := by
    decide +kernel
  obtain ⟨-, known, -⟩ := use_recalls_history entries steps "k2" differ
  refine ⟨differ, (known _).2 ⟨[.insert "alice" "k1", .insert "bob" "k2", .use "k2"],
    [.use "k3", .use "k2"], by decide +kernel, by simp, rfl, by simp⟩⟩

end KeyRing

end TokenRelay
