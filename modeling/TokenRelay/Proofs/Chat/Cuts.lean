/-
# Cuts that a feed mends

Supplies when the chunks of a byte stream leave no trace in its text, whether or not the bytes are
UTF-8. A feed holds back the beginning of a character only behind bytes that are UTF-8. Behind
others it hands the beginning out at once, and then a cut through the character shows: the text has
more characters than it would have without the cut, and no later cut takes them away again.
-/

import TokenRelay.Proofs.Chat.Feed
import TokenRelay.Proofs.Chat.Story
import TokenRelay.Proofs.Text.Cut

namespace TokenRelay.Chat

open Text.Utf8 (Apart read units weight)

/-- How many characters there are, but for carriage returns. -/
def letters (text : List Char) : Nat := text.countP (· ≠ '\r')

theorem letters_append (first second : List Char) :
    letters (first ++ second) = letters first + letters second :=
  List.countP_append

/-- Joining line ends takes away nothing but carriage returns. -/
theorem letters_joinLineEnds (text : List Char) : letters (joinLineEnds text) = letters text := by
  induction text using joinLineEnds.induct with
  | case1 rest ih => simpa [joinLineEnds, letters] using ih
  | case2 character rest alone ih =>
      rw [joinLineEnds_cons]
      · simpa [letters, List.countP_cons] using ih
      · rintro ⟨rfl, next⟩
        obtain ⟨more, rfl⟩ := List.head?_eq_some_iff.1 next
        exact alone more rfl rfl
  | case3 => rfl

namespace Feed

theorem letters_textOf (bytes : List UInt8) : letters (textOf bytes) = weight (units bytes) := by
  rw [textOf, letters_joinLineEnds, letters, Text.Utf8.decodeLossy, List.countP_map, weight]
  refine List.countP_congr fun unit _ => ?_
  have other : Text.Utf8.replacement ≠ '\r' := by decide
  cases unit <;> simp [other]

/-- A carriage return is read apart from what comes before it and behind it. -/
theorem units_return (body rest : List UInt8) :
    units (body ++ 13 :: rest) = units body ++ some '\r' :: units rest :=
  Text.Utf8.units_append_ascii (show (13 : UInt8).toNat < 0x80 by decide) body rest

/-- Texts join as their bytes do, if no character and no line end stands across the cut. -/
theorem textOf_append {first second : List UInt8} (apart : Apart first second)
    (lines : first.getLast? = some 13 → second.head? = some 13) :
    textOf (first ++ second) = textOf first ++ textOf second := by
  have whole : units (first ++ second) = units first ++ units second := apart
  simp only [textOf, Text.Utf8.decodeLossy, whole, List.map_append]
  refine joinLineEnds_append ?_
  rintro ⟨returns, newline⟩
  have last : (units first).getLast? = some (some '\r') := by
    rw [List.getLast?_map, Option.map_eq_some_iff] at returns
    obtain ⟨- | character, final, same⟩ := returns
    · cases same
    · rw [final, show character = '\r' from same]
  obtain ⟨more, rfl⟩ := List.head?_eq_some_iff.1 (lines (Text.Utf8.getLast?_units last))
  rw [show units (13 :: more) = some '\r' :: units more from units_return [] more] at newline
  cases newline

/-- Bytes are ready up to a character that is unfinished at their end; if they are no UTF-8 before
it, all of them are. A carriage return at the end of what is ready is not. -/
theorem readyCount_cases (bytes : List UInt8) :
    ∃ ready held, bytes = ready ++ held ∧
      readyCount bytes =
        (if ready.getLast? = some 13 then ready.length - 1 else ready.length) ∧
      (none ∉ (read bytes).1 ∧ (∀ rest, Apart ready (held ++ rest)) ∨
        none ∈ (read bytes).1 ∧ held = []) := by
  have sound : (read bytes).1.all Option.isSome = true ↔ none ∉ (read bytes).1 := by
    rw [List.all_eq_true]
    constructor
    · exact fun all inside => absurd (all none inside) Bool.false_ne_true
    · intro outside unit inside
      cases unit with
      | none => exact absurd inside outside
      | some character => rfl
  unfold readyCount
  simp only [sound]
  by_cases unsound : none ∈ (read bytes).1
  · exact ⟨bytes, [], (List.append_nil bytes).symm, by simp [unsound], .inr ⟨unsound, rfl⟩⟩
  · obtain ⟨ready, split, complete⟩ := Text.Utf8.exists_ready bytes
    refine ⟨ready, (read bytes).2, split, ?_, .inl ⟨unsound, fun rest => ?_⟩⟩
    · have length : bytes.length - (read bytes).2.length = ready.length := by
        have lengths := congrArg List.length split
        rw [List.length_append] at lengths
        omega
      have taken : bytes.take ready.length = ready := by
        conv => lhs; rw [split]
        exact List.take_left
      simp only [unsound, not_false_eq_true, if_true, length, taken]
    · rw [Apart, ← List.append_assoc, ← split, Text.Utf8.units_append, complete]

theorem apart_return (body rest : List UInt8) :
    Apart body (13 :: rest) ∧ Apart (body ++ [13]) rest := by
  have first : units (13 :: rest) = some '\r' :: units rest := units_return [] rest
  have last : units (body ++ [13]) = units body ++ [some '\r'] := units_return body []
  constructor
  · rw [Apart, units_return, first]
  · rw [Apart, List.append_assoc, List.singleton_append, units_return, last, List.append_assoc,
      List.singleton_append]

/-- A chunk completes the text of the bytes up to those that the feed goes on with. The cut between
them shows only where the feed goes on with nothing, behind bytes that are no UTF-8. -/
theorem push_ready (feed : Feed) (chunk : List UInt8) :
    ∃ ready, feed.held ++ chunk = ready ++ (feed.push chunk).2.held ∧
      (feed.push chunk).1 = textOf ready ∧
      (ready.getLast? = some 13 → (feed.push chunk).2.held.head? = some 13) ∧
      ((∀ rest, Apart ready ((feed.push chunk).2.held ++ rest) ∧
          (none ∈ (read (feed.held ++ chunk)).1 → Apart (feed.held ++ chunk) rest)) ∨
        none ∈ (read (feed.held ++ chunk)).1 ∧ (feed.push chunk).2.held = []) := by
  simp only [push]
  generalize feed.held ++ chunk = bytes
  obtain ⟨ready, held, split, count, cut⟩ := readyCount_cases bytes
  by_cases returns : ready.getLast? = some 13
  · obtain ⟨body, rfl⟩ := List.getLast?_eq_some_iff.1 returns
    have length : readyCount bytes = body.length := by simp [count, returns]
    have whole : bytes = body ++ 13 :: held := by simp [split]
    have taken : bytes.take (readyCount bytes) = body := by
      rw [length, whole, List.take_left]
    have dropped : bytes.drop (readyCount bytes) = 13 :: held := by
      rw [length, whole, List.drop_left]
    rw [taken, dropped]
    refine ⟨body, whole, rfl, fun _ => rfl, .inl fun rest => ⟨(apart_return body _).1, ?_⟩⟩
    intro unsound
    obtain ⟨sound, -⟩ | ⟨-, rfl⟩ := cut
    · exact absurd unsound sound
    · rw [split, List.append_nil]
      exact (apart_return body rest).2
  · have length : readyCount bytes = ready.length := by rw [count, if_neg returns]
    have taken : bytes.take (readyCount bytes) = ready := by
      rw [length, split, List.take_left]
    have dropped : bytes.drop (readyCount bytes) = held := by
      rw [length, split, List.drop_left]
    rw [taken, dropped]
    refine ⟨ready, split, rfl, fun last => absurd last returns, ?_⟩
    rcases cut with ⟨sound, apart⟩ | ⟨unsound, nothing⟩
    · exact .inl fun rest => ⟨apart rest, fun unsound => absurd unsound sound⟩
    · exact .inr ⟨unsound, nothing⟩

/-- The cuts between chunks leave no trace: behind bytes of a chunk that are no UTF-8 none of them
goes through a character or the beginning of one. -/
def Intact (feed : Feed) : List (List UInt8) → Prop
  | [] => True
  | chunk :: rest =>
    (none ∈ (read (feed.held ++ chunk)).1 → Apart (feed.held ++ chunk) rest.flatten) ∧
      (feed.push chunk).2.Intact rest

/-- What a feed goes on with behind a chunk stands at the end of the bytes so far. -/
theorem held_append_flatten {feed : Feed} {chunk ready : List UInt8}
    (split : feed.held ++ chunk = ready ++ (feed.push chunk).2.held) (rest : List (List UInt8)) :
    feed.held ++ (chunk :: rest).flatten =
      ready ++ ((feed.push chunk).2.held ++ rest.flatten) := by
  rw [List.flatten_cons, ← List.append_assoc, split, List.append_assoc]

/-- If the cuts leave no trace, the text of chunks is that of all their bytes. -/
theorem decode_of_intact {feed : Feed} {chunks : List (List UInt8)} (intact : feed.Intact chunks) :
    feed.decode chunks = textOf (feed.held ++ chunks.flatten) := by
  induction chunks generalizing feed with
  | nil => rw [decode, flush, List.flatten_nil, List.append_nil]
  | cons chunk rest ih =>
      obtain ⟨apart, intact⟩ := intact
      obtain ⟨ready, split, text, lines, cut⟩ := feed.push_ready chunk
      have between : Apart ready ((feed.push chunk).2.held ++ rest.flatten) := by
        rcases cut with always | ⟨unsound, nothing⟩
        · exact (always rest.flatten).1
        · rw [nothing, List.append_nil] at split
          rw [nothing, List.nil_append, ← split]
          exact apart unsound
      rw [decode, held_append_flatten split, text, ih intact]
      refine (textOf_append between fun returns => ?_).symm
      rw [List.head?_append, lines returns, Option.some_or]

/-- If a cut leaves a trace, the text of chunks has more letters than that of all their bytes. The
induction is on the chunks: a cut that shows makes more letters, and no other cut makes fewer. -/
theorem letters_textOf_lt {feed : Feed} {chunks : List (List UInt8)}
    (broken : ¬ feed.Intact chunks) :
    letters (textOf (feed.held ++ chunks.flatten)) < letters (feed.decode chunks) := by
  induction chunks generalizing feed with
  | nil => exact absurd trivial broken
  | cons chunk rest ih =>
      obtain ⟨ready, split, text, -, cut⟩ := feed.push_ready chunk
      have joined := Text.Utf8.weight_units_append_le ready
        ((feed.push chunk).2.held ++ rest.flatten)
      rw [decode, held_append_flatten split, text, letters_append, letters_textOf, letters_textOf]
      by_cases intact : (feed.push chunk).2.Intact rest
      · -- The cut behind this chunk shows.
        obtain ⟨unsound, through⟩ : none ∈ (read (feed.held ++ chunk)).1 ∧
            ¬ Apart (feed.held ++ chunk) rest.flatten := by
          simpa [Intact, intact] using broken
        rw [decode_of_intact intact, letters_textOf]
        rcases cut with always | ⟨-, nothing⟩
        · exact absurd ((always rest.flatten).2 unsound) through
        · rw [nothing, List.append_nil] at split
          rw [nothing, List.nil_append]
          rw [split] at through
          have less := (Text.Utf8.apart_or_weight_lt ready rest.flatten).resolve_left through
          rwa [Text.Utf8.weight_append] at less
      · have less := ih intact
        rw [letters_textOf] at less
        omega

/-- The text of chunks is that of all their bytes, with one replacement for every sequence that is
no UTF-8, exactly if the cuts between them leave no trace. -/
theorem decode_eq_textOf_iff (feed : Feed) (chunks : List (List UInt8)) :
    feed.decode chunks = textOf (feed.held ++ chunks.flatten) ↔ feed.Intact chunks := by
  refine ⟨fun whole => ?_, decode_of_intact⟩
  by_cases intact : feed.Intact chunks
  · exact intact
  · have less := letters_textOf_lt intact
    rw [whole] at less
    exact absurd less (Nat.lt_irrefl _)

/-- An event with a byte that is no UTF-8 in front of a letter of two bytes, and a cut in the
letter. -/
def cutLetter : List (List UInt8) :=
  [Text.Utf8.encode "data: \x7b\"choices\":[\x7b\"delta\":\x7b\"content\":\"".toList ++
      [0xFF, 0xC3],
    0xA9 :: Text.Utf8.encode "\"\x7d\x7d]\x7d\n\n".toList]

/-- The halves of the letter are not put together, and every one of them is replaced on its own. -/
theorem letter_stays_cut :
    ({} : Feed).decode cutLetter ≠ textOf cutLetter.flatten ∧
      (({ chunks := cutLetter } : Stream).pulls 1).1 = [.fragment "\uFFFD\uFFFD\uFFFD"] ∧
      (({ chunks := [cutLetter.flatten] } : Stream).pulls 1).1 = [.fragment "\uFFFDé"] := by
  decide +kernel

end Feed

end TokenRelay.Chat
