/-
# Strings are no longer than their text

Supplies that reading JSON never makes more of a text than there is: a sequence of bytes has at most
as many units, and a string in it at most as many characters. One character is read per unit at
most, so the number of units read so far bounds every string that has been found or is being read.
-/

import TokenRelay.Proofs.Json.Record
import TokenRelay.Query
import TokenRelay.Text.Utf8

namespace TokenRelay

namespace Text.Utf8

/-- Every byte makes at most one unit, and so does a character that is never finished. -/
theorem length_readFrom_le (units : List (Option Char)) (pending : Option Unfinished)
    (bytes : List UInt8) :
    (readFrom units pending bytes).1.length +
        (if (readFrom units pending bytes).2.isEmpty then 0 else 1) ≤
      units.length + pending.toList.length + bytes.length := by
  fun_induction readFrom units pending bytes with
  | case1 units => simp
  | case2 units unfinished =>
      have atMost : (if unfinished.bytes.reverse.isEmpty then 0 else 1) ≤ 1 := by split <;> decide
      simpa using atMost
  | _ =>
      next ih =>
      simp only [List.length_cons, Option.toList_some, Option.toList_none, List.length_nil] at ih ⊢
      omega

theorem length_units_le (bytes : List UInt8) : (units bytes).length ≤ bytes.length := by
  have bound := length_readFrom_le [] none bytes
  unfold units read
  split
  · next same =>
    rw [same] at bound
    simpa using bound
  · next same =>
    rw [same] at bound
    simpa using bound

end Text.Utf8

namespace Token

/-- The string of a token has at most as many characters. -/
def IsWithin (limit : Nat) : Token → Prop
  | .string (some text) => text.length ≤ limit
  | _ => True

/-- So has the string that is being read. -/
def Mode.IsWithin (limit : Nat) : Mode → Prop
  | .word _ token => token.IsWithin limit
  | .quoted text | .escaped text | .unit text _ _ => text.characters.length ≤ limit
  | .between | .number _ _ | .stuck => True

/-- All strings found so far have at most as many characters. -/
structure Walk.IsWithin (limit : Nat) (walk : Walk) : Prop where
  tokens : ∀ token ∈ walk.tokens, token.IsWithin limit
  mode : walk.mode.IsWithin limit

variable {limit : Nat}

theorem IsWithin.mono {token : Token} (within : token.IsWithin limit) {more : Nat}
    (le : limit ≤ more) : token.IsWithin more := by
  unfold IsWithin at within ⊢
  split
  · exact Nat.le_trans within le
  · trivial

/-- One more unit adds at most one character. -/
theorem Quoted.length_push_le (text : Quoted) (next : Option Char) :
    (text.push next).characters.length ≤ text.characters.length + 1 := by
  cases next with
  | some character => exact Nat.le_refl _
  | none => exact Nat.le_succ _

theorem Quoted.length_pushUnit_le (text : Quoted) (unit : Nat) :
    (text.pushUnit unit).characters.length ≤ text.characters.length + 1 := by
  unfold pushUnit
  split
  · split <;> simp
  · split
    · simp
    · split <;> simp

theorem Quoted.isWithin_close {text : Quoted} (within : text.characters.length ≤ limit) :
    (Token.string text.close).IsWithin limit := by
  unfold close
  split
  · simpa [IsWithin] using within
  · trivial

/-- Between tokens nothing is read that is not a token of its own. -/
theorem isWithin_beginToken {tokens : List Token} (within : ∀ token ∈ tokens, token.IsWithin limit)
    (character : Char) : (beginToken tokens character).IsWithin limit := by
  unfold beginToken halt
  split
  case h_16 =>
    split <;> exact ⟨by simpa [IsWithin] using within, trivial⟩
  all_goals
    refine ⟨by simpa [IsWithin] using within, ?_⟩
    simp [Mode.IsWithin, Quoted.empty, IsWithin]

theorem isWithin_escapedStep {tokens : List Token} {text : Quoted}
    (within : ∀ token ∈ tokens, token.IsWithin (limit + 1)) (short : text.characters.length ≤ limit)
    (character : Char) : (escapedStep tokens text character).IsWithin (limit + 1) := by
  have push (unit : Nat) : (text.pushUnit unit).characters.length ≤ limit + 1 :=
    Nat.le_trans (text.length_pushUnit_le unit) (Nat.succ_le_succ short)
  unfold escapedStep halt
  split
  case h_9 => exact ⟨within, Nat.le_succ_of_le short⟩
  case h_10 => exact ⟨by simpa [IsWithin] using within, trivial⟩
  all_goals exact ⟨within, push _⟩

/-- One more unit makes no string longer than by one character. -/
theorem Walk.IsWithin.step {walk : Walk} (within : walk.IsWithin limit) (next : Option Char) :
    (walk.step next).IsWithin (limit + 1) := by
  obtain ⟨tokens, mode⟩ := walk
  obtain ⟨found, reading⟩ := within
  have earlier : ∀ token ∈ tokens, token.IsWithin (limit + 1) :=
    fun token inside => (found token inside).mono (Nat.le_succ limit)
  have behind (token : Token) (same : token.IsWithin (limit + 1)) :
      ∀ other ∈ token :: tokens, other.IsWithin (limit + 1) :=
    List.forall_mem_cons.2 ⟨same, earlier⟩
  have stops : (halt tokens).IsWithin (limit + 1) := ⟨behind .stop trivial, trivial⟩
  cases mode with
  | between =>
      cases next with
      | none => exact stops
      | some character => exact isWithin_beginToken earlier character
  | word owed token =>
      cases next with
      | none => exact stops
      | some character =>
          have same : token.IsWithin (limit + 1) := reading.mono (Nat.le_succ limit)
          simp only [Walk.step]
          split
          · exact stops
          · split
            · exact stops
            · split
              · exact ⟨behind token same, trivial⟩
              · exact ⟨earlier, same⟩
  | quoted text =>
      have longer := text.length_push_le next
      have short : (text.push next).characters.length ≤ limit + 1 :=
        Nat.le_trans longer (Nat.succ_le_succ reading)
      cases next with
      | none => exact ⟨earlier, short⟩
      | some character =>
          simp only [Walk.step]
          split
          · exact ⟨behind _ (Quoted.isWithin_close (Nat.le_succ_of_le reading)), trivial⟩
          · split
            · exact ⟨earlier, Nat.le_succ_of_le reading⟩
            · split
              · exact stops
              · exact ⟨earlier, short⟩
  | escaped text =>
      cases next with
      | none => exact stops
      | some character => exact isWithin_escapedStep earlier reading character
  | unit text owed value =>
      cases next with
      | none => exact stops
      | some character =>
          simp only [Walk.step]
          split
          · exact stops
          · split
            · exact ⟨earlier,
                Nat.le_trans (text.length_pushUnit_le _) (Nat.succ_le_succ reading)⟩
            · exact ⟨earlier, Nat.le_succ_of_le reading⟩
  | number place numeral =>
      cases next with
      | none =>
          simp only [Walk.step]
          split
          · exact ⟨List.forall_mem_cons.2 ⟨trivial, behind (.number _) trivial⟩, trivial⟩
          · exact stops
      | some character =>
          simp only [Walk.step]
          split
          · exact ⟨earlier, trivial⟩
          · exact stops
          · exact isWithin_beginToken (behind (.number _) trivial) character
  | stuck => exact ⟨earlier, trivial⟩

theorem Walk.IsWithin.over {walk : Walk} (within : walk.IsWithin limit)
    (text : List (Option Char)) :
    (text.foldl Walk.step walk).IsWithin (limit + text.length) := by
  induction text generalizing limit walk with
  | nil => exact within
  | cons next rest ih =>
      have later := ih (within.step next)
      rw [List.length_cons, Nat.add_comm rest.length 1, ← Nat.add_assoc]
      exact later

/-- No string of a text has more characters than the text has units. -/
theorem isWithin_scan (text : List (Option Char)) :
    ∀ token ∈ scan text, token.IsWithin text.length := by
  have start : Walk.start.IsWithin 0 := ⟨List.forall_mem_nil _, trivial⟩
  have within := start.over text
  rw [Nat.zero_add] at within
  have behind (token : Token) (same : token.IsWithin text.length) :
      ∀ other ∈ (token :: (text.foldl Walk.step .start).tokens).reverse,
        other.IsWithin text.length :=
    fun other inside =>
      List.forall_mem_cons.2 ⟨same, within.tokens⟩ other (List.mem_reverse.1 inside)
  unfold scan Walk.finish
  split
  · exact fun other inside => within.tokens other (List.mem_reverse.1 inside)
  · exact fun other inside => within.tokens other (List.mem_reverse.1 inside)
  · split
    · exact behind (.number _) trivial
    · exact behind .stop trivial
  all_goals exact behind .stop trivial

end Token

/-- A tree that is a string has at most so many characters. -/
def Tree.IsShort (limit : Nat) : Tree → Prop
  | .string (some text) => text.length ≤ limit
  | _ => True

/-- A tree that is a string, or has one right below it, has at most so many characters there. -/
structure Tree.IsWithin (limit : Nat) (tree : Tree) : Prop where
  short : tree.IsShort limit
  parts : ∀ part ∈ tree.parts, part.IsShort limit

/-- Only a string or what has one right below it can be too long. -/
theorem Tree.inherited_isWithin (limit : Nat) :
    Tree.Inherited (Tree.IsShort limit) (Tree.IsWithin limit) where
  part_of_whole _ within := within.short
  broken := ⟨trivial, List.forall_mem_nil _⟩
  array _ _ short := ⟨trivial, short⟩
  object _ _ short := ⟨trivial, List.forall_mem_map.2 short⟩

/-- The value of a text, and the values right below it, are no strings that are longer. -/
theorem Document.isWithin_ofUnits (text : List (Option Char)) :
    (ofUnits text).tree.IsWithin text.length := by
  refine whole_ofTokens (Tree.inherited_isWithin text.length) fun token inside => ?_
  have within := Token.isWithin_scan text token inside
  cases token with
  | null | bool | number => exact ⟨trivial, List.forall_mem_nil _⟩
  | string value =>
      refine ⟨?_, List.forall_mem_nil _⟩
      cases value with
      | none => trivial
      | some text => exact within
  | openObject | closeObject | openArray | closeArray | colon | comma | stop => trivial

/-- A string that is read right below a value is a string there. -/
theorem Tree.IsWithin.length_le {limit : Nat} {tree part : Tree} (within : tree.IsWithin limit)
    (inside : part ∈ tree.parts) {depth : Nat} {text : String}
    (read : Reader.string depth part = .ok text) : text.length ≤ limit := by
  have short := within.parts part inside
  unfold Reader.string at read
  split at read
  · cases read
    exact short
  · cases read

/-- The text of a query is no longer than what it was read from. -/
theorem Query.length_text_le {units : List (Option Char)} {query : Query}
    (read : Query.reader.run (Document.ofUnits units) = .ok query) :
    query.text.length ≤ units.length := by
  obtain ⟨depth, find, -, built, below⟩ := Record.exists_build (Reader.of_run read)
  obtain ⟨_, _, fourth, -, rfl⟩ := Record.exists_of_build_and built
  obtain ⟨_, _, third, -, rfl⟩ := Record.exists_of_build_and fourth
  obtain ⟨_, _, second, -, rfl⟩ := Record.exists_of_build_and third
  obtain ⟨_, _, first, -, rfl⟩ := Record.exists_of_build_and second
  obtain ⟨_, text, made, content, rfl⟩ := Record.exists_of_build_and first
  cases made
  obtain ⟨part, present, found⟩ := Record.exists_of_build_required content
  exact (Document.isWithin_ofUnits units).length_le (below _ _ present) found

end TokenRelay
