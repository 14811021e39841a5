/-
# Texts in lower case

Supplies that a text in lower case stays as it is in lower case, that nothing in it is blank that
was not blank before, and that the case of ASCII letters does not matter to it. What becomes of a
sigma depends on its neighbours; but neither form of it is changed again, and whether a neighbour
has case does not depend on which case that is.
-/

import TokenRelay.Proofs.Text.Trim
import TokenRelay.Text.Ascii
import TokenRelay.Text.LowerCase.Basic

namespace TokenRelay.Text

namespace LowerCase

/-- The lower-case forms of the characters in a span. -/
def Span.image (span : Span) : Span where
  first := ((span.first : Int) + span.shift).toNat
  last := ((span.last : Int) + span.shift).toNat
  step := span.step
  shift := 0

/-- A test for two spans without a common character: one ends before the other begins, or the first
lies between the characters of the second. -/
def Span.avoids (span other : Span) : Bool :=
  Nat.blt span.last other.first || Nat.blt other.last span.first ||
    Nat.beq other.step 2 && (Nat.beq span.step 2 || Nat.beq span.first span.last) &&
      Nat.beq ((span.first - other.first) % 2) 1

theorem Span.contains_image {span : Span} (least : 0 ≤ (span.first : Int) + span.shift)
    {code : Nat} (inside : span.contains code = true) :
    span.image.contains ((code : Int) + span.shift).toNat = true := by
  simp only [contains, image, Bool.and_eq_true, decide_eq_true_eq, beq_iff_eq] at inside ⊢
  obtain ⟨⟨low, high⟩, place⟩ := inside
  have moved : ((code : Int) + span.shift).toNat - ((span.first : Int) + span.shift).toNat =
      code - span.first := by omega
  rw [moved]
  exact ⟨⟨decide_eq_true (by omega), decide_eq_true (by omega)⟩, place⟩

theorem Span.contains_of_avoids {span other : Span} (apart : span.avoids other = true) {code : Nat}
    (inside : span.contains code = true) : other.contains code = false := by
  simp only [contains, Bool.and_eq_true, decide_eq_true_eq, beq_iff_eq] at inside
  obtain ⟨⟨low, high⟩, place⟩ := inside
  simp only [avoids, Bool.or_eq_true, Bool.and_eq_true, Nat.blt_eq, Nat.beq_eq] at apart
  simp only [contains, Bool.and_eq_false_iff, decide_eq_false_iff_not, beq_eq_false_iff_ne]
  rcases apart with (before | behind) | ⟨⟨alternate, same⟩, odd⟩
  · omega
  · omega
  · rw [alternate]
    rcases same with same | single
    · rw [same] at place
      omega
    · omega

/-- What no lower-case form is: no character at all, no capital letter that has its form apart from
the spans, and no blank. -/
def reserved : List Span :=
  [⟨0xD800, 0xDFFF, 1, 0⟩, ⟨0x41, 0x5A, 1, 0⟩, ⟨0x130, 0x130, 1, 0⟩, ⟨0x3A3, 0x3A3, 1, 0⟩,
    ⟨0x09, 0x0D, 1, 0⟩, ⟨0x20, 0x20, 1, 0⟩, ⟨0x85, 0x85, 1, 0⟩, ⟨0xA0, 0xA0, 1, 0⟩,
    ⟨0x1680, 0x1680, 1, 0⟩, ⟨0x2000, 0x200A, 1, 0⟩, ⟨0x2028, 0x2029, 1, 0⟩,
    ⟨0x202F, 0x202F, 1, 0⟩, ⟨0x205F, 0x205F, 1, 0⟩, ⟨0x3000, 0x3000, 1, 0⟩]

theorem spans_fit : ∀ span ∈ spans.toList,
    0 ≤ (span.first : Int) + span.shift ∧ (span.last : Int) + span.shift < 0x110000 := by
  decide +kernel

theorem spans_avoid : (spans.toList.all fun span => (spans.toList ++ reserved).all fun other =>
    span.image.avoids other) = true := by
  decide +kernel

/-- The code point of the lower-case form of a character in a span. -/
def Span.form (span : Span) (code : Nat) : Nat := ((code : Int) + span.shift).toNat

/-- A code point of a character whose lower-case form is the character itself. -/
structure IsForm (code : Nat) : Prop where
  toNat_ofNat : (Char.ofNat code).toNat = code
  notCapital : ¬ (0x41 ≤ code ∧ code ≤ 0x5A)
  notDotted : code ≠ 0x130
  notSigma : code ≠ 0x3A3
  visible : isBlank (Char.ofNat code) = false
  unlisted : spans.find? (·.contains code) = none

/-- Lower-case forms are in no span, and none of them is reserved. -/
theorem Span.isForm_form {span : Span} (listed : span ∈ spans) {code : Nat}
    (inside : span.contains code = true) : IsForm (span.form code) := by
  have avoided : ∀ other ∈ spans.toList ++ reserved, other.contains (span.form code) = false := by
    intro other among
    have apart := List.all_eq_true.1 (List.all_eq_true.1 spans_avoid span listed.val) other among
    exact contains_of_avoids apart (contains_image (spans_fit span listed.val).1 inside)
  rw [List.forall_mem_append] at avoided
  obtain ⟨unlisted, apart⟩ := avoided
  simp only [reserved, List.mem_cons, List.not_mem_nil, or_false, forall_eq_or_imp, forall_eq,
    contains, Nat.mod_one, BEq.rfl, Bool.true_eq_false, Bool.and_eq_false_iff,
    decide_eq_false_iff_not] at apart
  have valid : (span.form code).isValidChar := by
    have bound := (spans_fit span listed.val).2
    simp only [contains, Bool.and_eq_true, decide_eq_true_eq] at inside
    simp only [Nat.isValidChar]
    simp only [form] at apart ⊢
    omega
  have point : (Char.ofNat (span.form code)).toNat = span.form code := by
    rw [Char.ofNat, dif_pos valid]
    rfl
  refine ⟨point, by omega, by omega, by omega, ?_, ?_⟩
  · simp only [isBlank, point, Bool.or_eq_false_iff, Bool.and_eq_false_iff,
      decide_eq_false_iff_not, beq_eq_false_iff_ne]
    omega
  · rw [Array.find?_eq_none]
    intro other among
    rw [unlisted other among.val]
    exact Bool.false_ne_true

/-- Two characters that are alike in everything that lower case depends on. -/
structure Alike (first second : Char) : Prop where
  cased : isCased first = isCased second
  ignorable : isIgnorable first = isIgnorable second
  blank : isBlank first = isBlank second
  sigma : first = 'Σ' ↔ second = 'Σ'
  form : ofChar first = ofChar second

/-- A character that is its own lower-case form wherever it stands. -/
structure IsFixed (character : Char) : Prop where
  ne_sigma : character ≠ 'Σ'
  ofChar_eq : ofChar character = [character]

theorem toLower_of_notCapital {character : Char}
    (other : ¬ (0x41 ≤ character.toNat ∧ character.toNat ≤ 0x5A)) :
    character.toLower = character := dif_neg other

theorem toNat_toLower_of_capital {character : Char}
    (capital : 0x41 ≤ character.toNat ∧ character.toNat ≤ 0x5A) :
    character.toLower.toNat = character.toNat + 32 := by
  have changed : character.toLower = ⟨character.val + 32, _⟩ := dif_pos capital
  have bound : character.val.toNat ≤ 0x5A := capital.2
  rw [changed]
  change (character.val + 32).toNat = character.val.toNat + 32
  rw [UInt32.toNat_add]
  exact Nat.mod_eq_of_lt (by change _ + 32 < _; omega)

theorem inRanges_eq_true_iff {ranges : Array (Nat × Nat)} {code : Nat} :
    inRanges ranges code = true ↔ ∃ range ∈ ranges.toList, range.1 ≤ code ∧ code ≤ range.2 := by
  simp [inRanges, ← Array.any_toList]

theorem cased_letters :
    (0x41, 0x5A) ∈ casedRanges.toList ∧ (0x61, 0x7A) ∈ casedRanges.toList := by
  decide +kernel

theorem ignorable_letters : ∀ range ∈ ignorableRanges.toList,
    range.2 < 0x41 ∨ (0x5A < range.1 ∧ range.2 < 0x61) ∨ 0x7A < range.1 := by
  decide +kernel

/-- ASCII letters have case, and nothing passes over them. -/
theorem cased_of_letter {character : Char}
    (letter : (0x41 ≤ character.toNat ∧ character.toNat ≤ 0x5A) ∨
      (0x61 ≤ character.toNat ∧ character.toNat ≤ 0x7A)) :
    isCased character = true ∧ isIgnorable character = false := by
  refine ⟨inRanges_eq_true_iff.2 ?_, Bool.eq_false_iff.2 fun passed => ?_⟩
  · rcases letter with capital | small
    · exact ⟨_, cased_letters.1, capital⟩
    · exact ⟨_, cased_letters.2, small⟩
  · obtain ⟨range, listed, low, high⟩ := inRanges_eq_true_iff.1 passed
    have apart := ignorable_letters range listed
    omega

theorem isBlank_of_letter {character : Char}
    (letter : 0x41 ≤ character.toNat ∧ character.toNat ≤ 0x7A) : isBlank character = false := by
  simp only [isBlank, Bool.or_eq_false_iff, Bool.and_eq_false_iff, decide_eq_false_iff_not,
    beq_eq_false_iff_ne]
  omega

theorem ne_sigma_of_ascii {character : Char} (ascii : character.toNat < 0x80) :
    character ≠ 'Σ' := by
  rintro rfl
  exact absurd ascii (by decide)

theorem ofChar_of_ascii {character : Char} (ascii : character.toNat < 0x80) :
    ofChar character = [character.toLower] := by
  simp only [ofChar, if_pos ascii]

/-- The case of an ASCII letter is nothing that lower case depends on. -/
theorem alike_toLower (character : Char) : Alike character character.toLower := by
  by_cases capital : 0x41 ≤ character.toNat ∧ character.toNat ≤ 0x5A
  · have moved := toNat_toLower_of_capital capital
    have small : 0x61 ≤ character.toLower.toNat ∧ character.toLower.toNat ≤ 0x7A := by omega
    have cased := cased_of_letter (.inl capital)
    have cased' := cased_of_letter (.inr small)
    have visible : isBlank character = false := isBlank_of_letter (by omega)
    have visible' : isBlank character.toLower = false := isBlank_of_letter (by omega)
    have kept : character.toLower.toLower = character.toLower :=
      toLower_of_notCapital (by omega)
    exact {
      cased := cased.1.trans cased'.1.symm
      ignorable := cased.2.trans cased'.2.symm
      blank := visible.trans visible'.symm
      sigma := iff_of_false (ne_sigma_of_ascii (by omega)) (ne_sigma_of_ascii (by omega))
      form := by
        rw [ofChar_of_ascii (by omega), ofChar_of_ascii (by omega), kept] }
  · rw [toLower_of_notCapital capital]
    exact ⟨rfl, rfl, rfl, Iff.rfl, rfl⟩

theorem IsForm.isFixed {code : Nat} (form : IsForm code) : IsFixed (Char.ofNat code) where
  ne_sigma same := form.notSigma (by rw [← form.toNat_ofNat, same]; rfl)
  ofChar_eq := by
    have small : (Char.ofNat code).toLower = Char.ofNat code :=
      toLower_of_notCapital (form.toNat_ofNat.symm ▸ form.notCapital)
    simp only [ofChar, form.toNat_ofNat, form.unlisted, small, if_neg form.notDotted, ite_self]

/-- The forms that no span gives. -/
theorem isFixed_special : ∀ form ∈ ['i', '\u0307', 'ς', 'σ'],
    IsFixed form ∧ isBlank form = false := by
  have all : (['i', '\u0307', 'ς', 'σ'].all fun form =>
      form != 'Σ' && ofChar form == [form] && !isBlank form) = true := by
    decide +kernel
  intro form inside
  have known := List.all_eq_true.1 all form inside
  simp only [Bool.and_eq_true, bne_iff_ne, beq_iff_eq, Bool.not_eq_true'] at known
  exact ⟨⟨known.1.1, known.1.2⟩, known.2⟩

/-- What becomes of a character is fixed, and it is not blank if the character is not. -/
theorem isFixed_of_mem_ofChar {character result : Char} (notSigma : character ≠ 'Σ')
    (inside : result ∈ ofChar character) :
    IsFixed result ∧ (isBlank character = false → isBlank result = false) := by
  by_cases ascii : character.toNat < 0x80
  · have alike := alike_toLower character
    have fixed : ofChar character.toLower = [character.toLower] :=
      alike.form.symm.trans (ofChar_of_ascii ascii)
    rw [ofChar_of_ascii ascii, List.mem_singleton] at inside
    rw [inside]
    exact ⟨⟨mt alike.sigma.2 notSigma, fixed⟩, alike.blank.symm.trans⟩
  by_cases dotted : character.toNat = 0x130
  · simp only [ofChar, if_neg ascii, if_pos dotted] at inside
    have listed : result ∈ ['i', '\u0307', 'ς', 'σ'] := List.mem_append_left ['ς', 'σ'] inside
    obtain ⟨fixed, visible⟩ := isFixed_special result listed
    exact ⟨fixed, fun _ => visible⟩
  cases found : spans.find? (·.contains character.toNat) with
  | some span =>
      simp only [ofChar, if_neg ascii, if_neg dotted, found, List.mem_singleton] at inside
      have contains := Array.find?_some found
      have form := Span.isForm_form (Array.mem_of_find?_eq_some found) contains
      rw [inside]
      exact ⟨form.isFixed, fun _ => form.visible⟩
  | none =>
      have same : ofChar character = [character] := by
        simp only [ofChar, if_neg ascii, if_neg dotted, found]
      rw [same, List.mem_singleton] at inside
      rw [inside]
      exact ⟨⟨notSigma, same⟩, id⟩

theorem ofChar_ne_nil (character : Char) : ofChar character ≠ [] := by
  unfold ofChar
  dsimp only
  split
  · exact List.cons_ne_nil _ _
  · split
    · exact List.cons_ne_nil _ _
    · split <;> exact List.cons_ne_nil _ _

theorem isFixed_of_mem_inContext {before after : List Char} {character result : Char}
    (inside : result ∈ inContext before character after) :
    IsFixed result ∧ (isBlank character = false → isBlank result = false) := by
  by_cases sigma : character = 'Σ'
  · have either : result ∈ ['ς', 'σ'] := by
      simp only [inContext, if_pos sigma] at inside
      split at inside
      · exact List.mem_cons.2 (.inl (List.mem_singleton.1 inside))
      · exact List.mem_cons_of_mem _ inside
    obtain ⟨fixed, visible⟩ := isFixed_special result
      (List.mem_append_right ['i', '\u0307'] either)
    exact ⟨fixed, fun _ => visible⟩
  · rw [inContext, if_neg sigma] at inside
    exact isFixed_of_mem_ofChar sigma inside

theorem inContext_ne_nil (before : List Char) (character : Char) (after : List Char) :
    inContext before character after ≠ [] := by
  unfold inContext
  split
  · split <;> exact List.cons_ne_nil _ _
  · exact ofChar_ne_nil character

/-- The lower-case forms of the characters of a text, given the characters before it, the nearest
first. -/
def forms (before : List Char) : List Char → List Char
  | [] => []
  | character :: after => inContext before character after ++ forms (character :: before) after

theorem lowerFrom_eq (before done text : List Char) :
    lowerFrom before done text = done.reverse ++ forms before text := by
  induction text generalizing before done with
  | nil => simp [lowerFrom, forms]
  | cons character after ih => simp [lowerFrom, forms, ih]

theorem ofChars_eq (text : List Char) : ofChars text = forms [] text :=
  lowerFrom_eq [] [] text

/-- Every character in a text in lower case is fixed. -/
theorem isFixed_of_mem_forms {before text : List Char} {result : Char}
    (inside : result ∈ forms before text) : IsFixed result := by
  induction text generalizing before with
  | nil => cases inside
  | cons character after ih =>
      rcases List.mem_append.1 inside with first | later
      · exact (isFixed_of_mem_inContext first).1
      · exact ih later

/-- A text of fixed characters is in lower case. -/
theorem forms_of_isFixed {text : List Char} (fixed : ∀ character ∈ text, IsFixed character)
    (before : List Char) : forms before text = text := by
  induction text generalizing before with
  | nil => rfl
  | cons character after ih =>
      rw [List.forall_mem_cons] at fixed
      rw [forms, inContext, if_neg fixed.1.ne_sigma, fixed.1.ofChar_eq, ih fixed.2]
      rfl

theorem forms_ne_nil (before after : List Char) (character : Char) :
    forms before (character :: after) ≠ [] :=
  List.append_ne_nil_of_left_ne_nil (inContext_ne_nil _ _ _) _

/-- The first character in lower case comes from the first one. -/
theorem head?_forms {before text : List Char} {result : Char}
    (first : (forms before text).head? = some result) :
    ∃ character after, text.head? = some character ∧ result ∈ inContext before character after := by
  cases text with
  | nil => cases first
  | cons character after =>
      obtain ⟨form, others, same⟩ := List.exists_cons_of_ne_nil
        (inContext_ne_nil before character after)
      rw [forms, same] at first
      cases first
      exact ⟨character, after, rfl, same ▸ List.mem_cons_self⟩

/-- The last character in lower case comes from the last one. -/
theorem getLast?_forms {before text : List Char} {result : Char}
    (last : (forms before text).getLast? = some result) :
    ∃ character before,
      text.getLast? = some character ∧ result ∈ inContext before character [] := by
  induction text generalizing before with
  | nil => cases last
  | cons character after ih =>
      cases after with
      | nil =>
          rw [forms, forms, List.append_nil] at last
          exact ⟨character, before, rfl, List.mem_of_getLast? last⟩
      | cons next rest =>
          have found := List.getLast?_eq_some_getLast (forms_ne_nil (character :: before) rest next)
          rw [forms, List.getLast?_append, found, Option.some_or] at last
          rw [List.getLast?_cons_cons]
          exact ih (found.trans last)

/-- In lower case a trimmed text is trimmed. -/
theorem isTrimmed_forms {text : List Char} (trimmed : IsTrimmed text) (before : List Char) :
    IsTrimmed (forms before text) where
  first first := by
    obtain ⟨character, after, same, inside⟩ := head?_forms first
    exact (isFixed_of_mem_inContext inside).2 (trimmed.first same)
  last last := by
    obtain ⟨character, before, same, inside⟩ := getLast?_forms last
    exact (isFixed_of_mem_inContext inside).2 (trimmed.last same)

section Ascii

theorem comp_toLower {test : Char → Bool} (alike : ∀ character, test character =
    test character.toLower) : test ∘ Char.toLower = test :=
  funext fun character => (alike character).symm

theorem meetsCased_map (text : List Char) :
    meetsCased (text.map Char.toLower) = meetsCased text := by
  rw [meetsCased, meetsCased, List.dropWhile_map,
    comp_toLower fun character => (alike_toLower character).ignorable]
  cases text.dropWhile isIgnorable with
  | nil => rfl
  | cons character rest => exact (alike_toLower character).cased.symm

/-- A text is the same in lower case whatever case its ASCII letters have. -/
theorem forms_map (before text : List Char) :
    forms (before.map Char.toLower) (text.map Char.toLower) = forms before text := by
  induction text generalizing before with
  | nil => rfl
  | cons character after ih =>
      have alike := alike_toLower character
      rw [List.map_cons, forms, forms, ← List.map_cons, ih, inContext, inContext, meetsCased_map,
        meetsCased_map, ← alike.form]
      simp only [alike.sigma]

end Ascii

end LowerCase

/-- In lower case a text stays as it is. -/
theorem lower_lower (text : String) : lower (lower text) = lower text := by
  have fixed : ∀ character ∈ LowerCase.ofChars text.toList, LowerCase.IsFixed character := by
    rw [LowerCase.ofChars_eq]
    exact fun _ => LowerCase.isFixed_of_mem_forms
  rw [lower, lower, String.toList_ofList, LowerCase.ofChars_eq (LowerCase.ofChars _),
    LowerCase.forms_of_isFixed fixed]

end TokenRelay.Text
