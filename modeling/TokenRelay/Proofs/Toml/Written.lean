/-
# Written TOML documents

Supplies the written form of documents whose tables all have headers of their own, and that reading
undoes writing. There is one entry to a line, and names stand without quotation marks.
-/

import TokenRelay.Proofs.KeyMap
import TokenRelay.Proofs.Toml.Scalar
import TokenRelay.Proofs.Toml.Scan
import TokenRelay.Toml.Document

namespace TokenRelay.Toml

/-- A value that can be written. -/
inductive Content where
  | string (text : String)
  | natural (number : Nat)
  | bool (value : Bool)
  | strings (texts : List String)
  deriving DecidableEq, Repr

namespace Content

/-- What a written value is read as. -/
def item : Content → Item
  | .string text => .scalar (.string text)
  | .natural number => .scalar (.integer number)
  | .bool value => .scalar (.bool value)
  | .strings texts => .list (texts.map fun text => .scalar (.string text))

/-- The rest of a list, with its bracket. -/
def listed : List String → List Token
  | [] => [.closeBracket]
  | [last] => [.string last false, .closeBracket]
  | text :: rest => .string text false :: .comma :: .blank [' '] :: listed rest

/-- The tokens of a value. -/
def tokens : Content → List Token
  | .string text => [.string text false]
  | .natural number => [.word (toString number).toList]
  | .bool value => [.word (toString value).toList]
  | .strings texts => .openBracket :: listed texts

end Content

/-- A name that needs no quotation marks. -/
def IsBare (name : String) : Prop :=
  name.toList ≠ [] ∧ name.toList.all Draft.isBare = true

instance (name : String) : Decidable (IsBare name) :=
  inferInstanceAs (Decidable (_ ∧ _))

/-- The tokens of an entry, on a line of its own. -/
def entryTokens (entry : String × Content) : List Token :=
  .word entry.1.toList :: .blank [' '] :: .equals :: .blank [' '] :: (entry.2.tokens ++ [.newline])

/-- A table that can be written. -/
structure Section where
  name : String
  entries : List (String × Content)

namespace Section

/-- The tokens of a table, its header first. -/
def tokens (table : Section) : List Token :=
  .openBracket :: .word table.name.toList :: .closeBracket :: .newline ::
    table.entries.flatMap entryTokens

/-- What written entries are read as. -/
def items (entries : List (String × Content)) : Entries :=
  entries.map fun entry => (entry.1, entry.2.item)

/-- What a written table is read as. -/
def entry (table : Section) : String × Item := (table.name, .table .header (items table.entries))

/-- Every name needs no quotation marks, and no name is given twice. -/
structure Proper (table : Section) : Prop where
  name : IsBare table.name
  keys : ∀ entry ∈ table.entries, IsBare entry.1
  distinct : (table.entries.map Prod.fst).Nodup

end Section

/-- The text of tables. -/
def written (tables : List Section) : String :=
  String.ofList ((tables.flatMap Section.tokens).flatMap Token.text)

/-! ### Written tokens can be told apart -/

namespace Token

theorem Apart.after {before token : Token} {rest : List Token}
    (clear : blurs before token = false) (written : token.IsWritten)
    (apart : Apart (some token) rest) : Apart (some before) (token :: rest) :=
  .cons (fun _ latest => Option.some.inj latest ▸ clear) written apart

theorem isWord_of_isBare {character : Char} (bare : Draft.isBare character = true) :
    isWord character = true := by
  cases word : isWord character with
  | true => rfl
  | false =>
      have marks : ∀ mark ∈ ['.', '=', ',', '[', ']', '\x7b', '\x7d', '\n', '\r', '#', ' ', '\t',
          '"', '\''], (!Draft.isBare mark) = true := List.all_eq_true.1 rfl
      simp only [isWord, Bool.not_eq_false', List.contains_iff_mem] at word
      exact absurd bare (by simpa using marks character word)

theorem isWord_of_isDigit {character : Char} (digit : character.isDigit = true) :
    isWord character = true :=
  isWord_of_isBare (by simp [Draft.isBare, Char.isAlphanum, digit])

theorem isWritten_of_isBare {name : String} (bare : IsBare name) :
    (word name.toList).IsWritten :=
  ⟨bare.1, fun character inside => isWord_of_isBare (List.all_eq_true.1 bare.2 character inside)⟩

theorem isWritten_space : (blank [' ']).IsWritten :=
  ⟨List.cons_ne_nil _ _, List.forall_mem_singleton.2 (.inl rfl)⟩

variable {more : List Token}

theorem apart_listed (apart : Apart (some .closeBracket) more) (texts : List String)
    {before : Token} (open' : before = .openBracket ∨ before = .blank [' ']) :
    Apart (some before) (Content.listed texts ++ more) := by
  induction texts generalizing before with
  | nil => rcases open' with rfl | rfl <;> exact .after rfl trivial apart
  | cons text rest ih =>
      cases rest with
      | nil => rcases open' with rfl | rfl <;> exact .after rfl rfl (.after rfl trivial apart)
      | cons next rest =>
          have others : Apart (some .comma)
              (.blank [' '] :: (Content.listed (next :: rest) ++ more)) :=
            .after rfl isWritten_space (ih (.inr rfl))
          rcases open' with rfl | rfl <;> exact .after rfl rfl (.after rfl trivial others)

theorem apart_content (apart : Apart (some .newline) more) (content : Content) :
    Apart (some (.blank [' '])) (content.tokens ++ .newline :: more) := by
  cases content with
  | string text => exact .after rfl rfl (.after rfl trivial apart)
  | natural number =>
      refine .after rfl ?_ (.after rfl trivial apart)
      rw [Text.toList_toString]
      exact ⟨Nat.toDigits_ne_nil, fun _ inside =>
        isWord_of_isDigit (TokenRelay.Token.isDigit_of_mem_toDigits inside)⟩
  | bool value =>
      have written : (word (toString value).toList).IsWritten := by
        cases value <;> exact ⟨by decide, List.all_eq_true.1 rfl⟩
      exact .after rfl written (.after rfl trivial apart)
  | strings texts =>
      have closed : Apart (some .closeBracket) (.newline :: more) := .after rfl trivial apart
      exact .after rfl trivial (apart_listed closed texts (.inl rfl))

theorem apart_entries (apart : Apart (some .newline) more) {entries : List (String × Content)}
    (bare : ∀ entry ∈ entries, IsBare entry.1) :
    Apart (some .newline) (entries.flatMap entryTokens ++ more) := by
  induction entries with
  | nil => exact apart
  | cons entry rest ih =>
      rw [List.forall_mem_cons] at bare
      have value := apart_content (ih bare.2) entry.2
      have line : Apart (some (.word entry.1.toList)) (.blank [' '] :: .equals :: .blank [' '] ::
          (entry.2.tokens ++ .newline :: (rest.flatMap entryTokens ++ more))) :=
        .after rfl isWritten_space (.after rfl trivial (.after rfl isWritten_space value))
      simpa [entryTokens] using Apart.after rfl (isWritten_of_isBare bare.1) line

theorem apart_tables {tables : List Section} (proper : ∀ table ∈ tables, table.Proper)
    (last : Option Token) : Apart last (tables.flatMap Section.tokens) := by
  induction tables generalizing last with
  | nil => exact .nil last
  | cons table rest ih =>
      rw [List.forall_mem_cons] at proper
      have entries := apart_entries (ih proper.2 _) proper.1.keys
      have header : Apart (some .openBracket) (.word table.name.toList :: .closeBracket ::
          .newline :: (table.entries.flatMap entryTokens ++ rest.flatMap Section.tokens)) :=
        .after rfl (isWritten_of_isBare proper.1.name)
          (.after rfl trivial (.after rfl trivial entries))
      have clear : ∀ before ∈ last, blurs before .openBracket = false := by
        intro before _
        cases before <;> rfl
      simpa [Section.tokens] using Apart.cons clear trivial header

end Token

/-! ### Drafts of written documents -/

namespace Draft

/-- A draft at the beginning of a line. -/
def ready (root : Entries) (header : List String) : Draft := ⟨root, header, [], .statement⟩

variable {root root' : Entries} {header : List String} {key : String}

/-- The items of a list come one by one. -/
theorem foldlM_listed (texts : List String) (items : List Item) :
    (Content.listed texts).foldlM step ⟨root, header, [.list items, .pair [key]], .item⟩ =
      place? ⟨root, header, [.pair [key]], .item⟩
        (.list (items.reverse ++ texts.map fun text => .scalar (.string text))) := by
  have item (text : String) :
      step ⟨root, header, [.list items, .pair [key]], .item⟩ (.string text false) =
        some ⟨root, header, [.list (.scalar (.string text) :: items), .pair [key]],
          .furtherItem⟩ := rfl
  induction texts generalizing items with
  | nil =>
      simp only [Content.listed, List.foldlM_cons, List.foldlM_nil, bind_pure, List.map_nil,
        List.append_nil]
      rfl
  | cons text rest ih =>
      cases rest with
      | nil =>
          simp only [Content.listed, List.foldlM_cons, List.foldlM_nil, bind_pure, item,
            List.map_singleton, ← List.reverse_cons]
          rfl
      | cons next rest =>
          have others := ih (.scalar (.string text) :: items) fun _ => rfl
          rw [List.reverse_cons, List.append_assoc, List.singleton_append] at others
          exact others

section Placed

variable {item : Item}
  (placed : (ready root header).edit header (Entries.add key item) = some root')
include placed

theorem place?_eq (expects : Expectation) :
    place? ⟨root, header, [.pair [key]], expects⟩ item = some ⟨root', header, [], .lineEnd⟩ := by
  change ((ready root header).edit header (Entries.add key item)).map _ = _
  rw [placed]
  rfl

/-- The end of a line ends the word before it. -/
theorem foldlM_word {characters : List Char} (value : Scalar)
    (read : Scalar.ofWord? characters = some value) (same : item = .scalar value) :
    [Token.word characters, .newline].foldlM step ⟨root, header, [.pair [key]], .value⟩ =
      some (ready root' header) := by
  have begun : step ⟨root, header, [.pair [key]], .value⟩ (.word characters) =
      some ⟨root, header, [.pair [key]], .word characters.reverse⟩ := rfl
  have ended : step ⟨root, header, [.pair [key]], .word characters.reverse⟩ .newline =
      endWord ⟨root, header, [.pair [key]], .word characters.reverse⟩ characters.reverse
        .newline := rfl
  have valued := same ▸ place?_eq placed (.word characters.reverse)
  simp only [List.foldlM_cons, List.foldlM_nil, bind_pure, begun, Option.bind_eq_bind,
    Option.bind_some, ended, endWord, List.reverse_reverse, read, valued]
  rfl

end Placed

/-- A value and the end of its line. -/
theorem foldlM_content {content : Content}
    (placed : (ready root header).edit header (Entries.add key content.item) = some root') :
    (content.tokens ++ [Token.newline]).foldlM step ⟨root, header, [.pair [key]], .value⟩ =
      some (ready root' header) := by
  cases content with
  | string text =>
      have closed : [Token.string text false].foldlM step ⟨root, header, [.pair [key]], .value⟩ =
          some ⟨root', header, [], .lineEnd⟩ := by
        simp only [List.foldlM_cons, List.foldlM_nil, bind_pure]
        exact place?_eq placed .value
      rw [Content.tokens, List.foldlM_append, closed]
      rfl
  | natural number =>
      refine foldlM_word placed (.integer number) ?_ rfl
      rw [Text.toList_toString, Scalar.ofWord?_toDigits]
  | bool value =>
      refine foldlM_word placed (.bool value) ?_ rfl
      cases value <;> rfl
  | strings texts =>
      have opened : step ⟨root, header, [.pair [key]], .value⟩ .openBracket =
          some ⟨root, header, [.list [], .pair [key]], .item⟩ := rfl
      have closed : (Content.listed texts).foldlM step
          ⟨root, header, [.list [], .pair [key]], .item⟩ = some ⟨root', header, [], .lineEnd⟩ :=
        (foldlM_listed texts []).trans (place?_eq placed .item)
      rw [Content.tokens, List.cons_append, List.foldlM_cons, opened, Option.bind_eq_bind,
        Option.bind_some, List.foldlM_append, closed]
      rfl

/-- Where no table of this name is, its header begins one. -/
theorem foldlM_header (header : List String) {name : String} (bare : IsBare name)
    (absent : root.lookup name = none) :
    [Token.openBracket, .word name.toList, .closeBracket, .newline].foldlM step
        (ready root header) =
      some (ready (root ++ [(name, .table .header [])]) [name]) := by
  have opened : step (ready root header) .openBracket = some ⟨root, header, [], .bracket⟩ := rfl
  have named : step ⟨root, header, [], .bracket⟩ (.word name.toList) =
      some ⟨root, header, [], .further .header [name]⟩ := by
    simp [step, resume, partStep, bare.2]
  have closed : step ⟨root, header, [], .further .header [name]⟩ .closeBracket =
      some ⟨root ++ [(name, .table .header [])], [name], [], .lineEnd⟩ := by
    simp [step, resume, furtherStep, edit, Entries.change, Entries.openTable, absent]
  simp only [List.foldlM_cons, List.foldlM_nil, bind_pure, opened, named, closed,
    Option.bind_eq_bind, Option.bind_some]
  rfl

/-- A table behind the others is changed alone. -/
theorem put_append {before : Entries} {name : String} (absent : before.lookup name = none)
    (item item' : Item) :
    Entries.put (before ++ [(name, item)]) name item' = before ++ [(name, item')] := by
  have others : ∀ entry ∈ before, (if entry.1 = name then (name, item') else entry) = entry := by
    intro entry inside
    have other := List.lookup_eq_none_iff.1 absent entry inside
    exact if_neg fun same => by simp [same] at other
  rw [Entries.put, List.map_append, List.map_congr_left others, List.map_id']
  simp

/-- The latest table, under its header. -/
def inside (before : Entries) (name : String) (entries : Entries) : Draft :=
  ready (before ++ [(name, .table .header entries)]) [name]

section Latest

variable {before : Entries} {name : String} (absent : before.lookup name = none)
include absent

/-- An entry is added to the latest table. -/
theorem foldlM_entry {done : Entries} {entry : String × Content} (bare : IsBare entry.1)
    (fresh : done.lookup entry.1 = none) :
    (entryTokens entry).foldlM step (inside before name done) =
      some (inside before name (done ++ [(entry.1, entry.2.item)])) := by
  have keyed : step (inside before name done) (.word entry.1.toList) =
      some ⟨before ++ [(name, .table .header done)], [name], [], .further .value [entry.1]⟩ := by
    simp [step, resume, partStep, inside, ready, bare.2]
  have awaited : [Token.blank [' '], .equals, .blank [' ']].foldlM step
      ⟨before ++ [(name, .table .header done)], [name], [], .further .value [entry.1]⟩ =
      some ⟨before ++ [(name, .table .header done)], [name], [.pair [entry.1]], .value⟩ := rfl
  have placed : (inside before name done).edit [name] (Entries.add entry.1 entry.2.item) =
      some (before ++ [(name, .table .header (done ++ [(entry.1, entry.2.item)]))]) := by
    simp [edit, inside, ready, Entries.change, Entries.add, List.lookup_append, absent, fresh,
      put_append absent]
  have value := foldlM_content placed
  have split : entryTokens entry = .word entry.1.toList ::
      ([.blank [' '], .equals, .blank [' ']] ++ (entry.2.tokens ++ [.newline])) := rfl
  rw [split, List.foldlM_cons, keyed, Option.bind_eq_bind, Option.bind_some, List.foldlM_append,
    awaited, Option.bind_eq_bind, Option.bind_some, value]
  rfl

/-- The entries are added one by one. -/
theorem foldlM_entries (entries : List (String × Content)) (done : Entries)
    (bare : ∀ entry ∈ entries, IsBare entry.1)
    (distinct : (done.map Prod.fst ++ entries.map Prod.fst).Nodup) :
    (entries.flatMap entryTokens).foldlM step (inside before name done) =
      some (inside before name (done ++ Section.items entries)) := by
  induction entries generalizing done with
  | nil => simp [Section.items]
  | cons entry rest ih =>
      rw [List.forall_mem_cons] at bare
      have fresh : done.lookup entry.1 = none := by
        apply lookup_eq_none
        intro before
        exact (List.nodup_append.1 distinct).2.2 _ before _ List.mem_cons_self rfl
      have others := ih (done ++ [(entry.1, entry.2.item)]) bare.2 (by simpa using distinct)
      rw [List.flatMap_cons, List.foldlM_append, foldlM_entry absent bare.1 fresh,
        Option.bind_eq_bind, Option.bind_some, others]
      simp [Section.items]

end Latest

/-- The tables are added one by one. -/
theorem foldlM_tables (tables : List Section) (done : Entries) (header : List String)
    (proper : ∀ table ∈ tables, table.Proper)
    (distinct : (done.map Prod.fst ++ tables.map Section.name).Nodup) :
    ∃ header', (tables.flatMap Section.tokens).foldlM step (ready done header) =
      some (ready (done ++ tables.map Section.entry) header') := by
  induction tables generalizing done header with
  | nil => exact ⟨header, by simp⟩
  | cons table rest ih =>
      rw [List.forall_mem_cons] at proper
      have absent : done.lookup table.name = none := by
        apply lookup_eq_none
        intro before
        exact (List.nodup_append.1 distinct).2.2 _ before _ List.mem_cons_self rfl
      have begun := foldlM_header header proper.1.name absent
      have filled := foldlM_entries absent table.entries [] proper.1.keys
        (by simpa using proper.1.distinct)
      obtain ⟨header', others⟩ := ih (done ++ [table.entry]) [table.name] proper.2
        (by simpa [Section.entry] using distinct)
      have split : table.tokens =
          [.openBracket, .word table.name.toList, .closeBracket, .newline] ++
            table.entries.flatMap entryTokens := rfl
      refine ⟨header', ?_⟩
      rw [List.flatMap_cons, split, List.append_assoc, List.foldlM_append, begun,
        Option.bind_eq_bind, Option.bind_some, List.foldlM_append]
      change (List.foldlM step (inside done table.name []) _).bind _ = _
      rw [filled, Option.bind_some]
      simpa [Section.entry, inside] using others

end Draft

/-- A written document reads back. -/
theorem ofText?_written {tables : List Section} (proper : ∀ table ∈ tables, table.Proper)
    (distinct : (tables.map Section.name).Nodup) :
    Document.ofText? (written tables) = some (tables.map Section.entry) := by
  have unmarked : ((tables.flatMap Section.tokens).flatMap Token.text).head? ≠ some '\uFEFF' := by
    cases tables with
    | nil => simp
    | cons table rest => simp [Section.tokens, Token.text]
  obtain ⟨header, drafted⟩ := Draft.foldlM_tables tables [] [] proper (by simpa using distinct)
  have scanned := Token.scan_text (Token.apart_tables proper none) unmarked
  rw [Document.ofText?, written, String.toList_ofList, scanned, Option.bind_some,
    Document.ofTokens?]
  change ((tables.flatMap Section.tokens).foldlM Draft.step (Draft.ready [] [])).bind _ = _
  rw [drafted, Option.bind_some]
  rfl

end TokenRelay.Toml
