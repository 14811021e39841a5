/-
# Text that arrives in chunks is the text of all bytes

Supplies that cutting bytes into chunks leaves no trace. A feed has handed out the text of some
characters and holds the bytes that go on with the next ones, whatever the chunks were; and since
it never hands out a carriage return before it knows what follows, the texts it hands out join as
the characters do. Of bytes that need not be UTF-8 the same is shown for a cut behind a newline.
-/

import TokenRelay.Chat.Feed
import TokenRelay.Proofs.Text.Boundary
import TokenRelay.Proofs.Text.Utf8

namespace TokenRelay.Chat

open Text.Utf8 (encode)

theorem joinLineEnds_cons {character : Char} {rest : List Char}
    (apart : ¬ (character = '\r' ∧ rest.head? = some '\n')) :
    joinLineEnds (character :: rest) = character :: joinLineEnds rest := by
  rw [joinLineEnds]
  rintro more rfl rfl
  exact apart ⟨rfl, rfl⟩

/-- Texts are joined apart, unless the cut goes through a pair. -/
theorem joinLineEnds_append {first second : List Char}
    (apart : ¬ (first.getLast? = some '\r' ∧ second.head? = some '\n')) :
    joinLineEnds (first ++ second) = joinLineEnds first ++ joinLineEnds second := by
  induction first using joinLineEnds.induct with
  | case1 rest ih =>
      have rest_apart : ¬ (rest.getLast? = some '\r' ∧ second.head? = some '\n') := by
        rintro ⟨last, next⟩
        exact apart ⟨by simp [List.getLast?_cons, last], next⟩
      simp only [List.cons_append, joinLineEnds, ih rest_apart]
  | case2 character rest alone ih =>
      have rest_apart : ¬ (rest.getLast? = some '\r' ∧ second.head? = some '\n') := by
        rintro ⟨last, next⟩
        exact apart ⟨by simp [List.getLast?_cons, last], next⟩
      have alone' : ¬ (character = '\r' ∧ rest.head? = some '\n') := by
        rintro ⟨rfl, next⟩
        obtain ⟨more, rfl⟩ := List.head?_eq_some_iff.1 next
        exact alone more rfl rfl
      have apart' : ¬ (character = '\r' ∧ (rest ++ second).head? = some '\n') := by
        rintro ⟨rfl, next⟩
        cases rest with
        | nil => exact apart ⟨rfl, next⟩
        | cons following more => exact alone' ⟨rfl, next⟩
      rw [List.cons_append, joinLineEnds_cons apart', joinLineEnds_cons alone', ih rest_apart,
        List.cons_append]
  | case3 => rfl

/-- A text that ends with a newline still does. -/
theorem joinLineEnds_concat (text : List Char) :
    ∃ body, joinLineEnds (text ++ ['\n']) = body ++ ['\n'] := by
  induction text using joinLineEnds.induct with
  | case1 rest ih =>
      obtain ⟨body, same⟩ := ih
      exact ⟨'\n' :: body, by simp only [List.cons_append, joinLineEnds, same]⟩
  | case2 character rest alone ih =>
      obtain ⟨body, same⟩ := ih
      by_cases pair : character = '\r' ∧ rest = []
      · obtain ⟨rfl, rfl⟩ := pair
        exact ⟨[], rfl⟩
      · refine ⟨character :: body, ?_⟩
        rw [List.cons_append, joinLineEnds_cons, same, List.cons_append]
        rintro ⟨rfl, next⟩
        cases rest with
        | nil => exact pair ⟨rfl, rfl⟩
        | cons following more =>
            obtain rfl := Option.some.inj next
            exact alone more rfl rfl
  | case3 => exact ⟨[], rfl⟩

namespace Feed

theorem textOf_encode (characters : List Char) :
    textOf (encode characters) = joinLineEnds characters := by
  rw [textOf, Text.Utf8.decodeLossy_encode]

/-- Bytes are ready up to the last character that is complete, and short of a carriage return. -/
theorem readyCount_eq {bytes held : List UInt8} {ready : List Char}
    (bytesEq : bytes = encode ready ++ held)
    (reads : Text.Utf8.read bytes = (ready.map some, held)) :
    readyCount bytes =
      if (encode ready).getLast? = some 13 then (encode ready).length - 1
      else (encode ready).length := by
  have complete : (ready.map some).all Option.isSome = true := by simp
  have count : bytes.length - held.length = (encode ready).length := by
    rw [bytesEq, List.length_append, Nat.add_sub_cancel]
  unfold readyCount
  simp only [reads, complete, if_true, count]
  rw [bytesEq, List.take_left]

/-- A chunk completes the text of some of the characters that are to come, and the feed goes on with
the others. -/
theorem push_spec (feed : Feed) {chunk rest : List UInt8} {characters : List Char}
    (whole : feed.held ++ chunk ++ rest = encode characters) :
    ∃ later, (feed.push chunk).2.held ++ rest = encode later ∧
      (feed.push chunk).1 ++ joinLineEnds later = joinLineEnds characters := by
  obtain ⟨ready, later, held, rfl, bytesEq, onward, reads⟩ :=
    Text.Utf8.read_of_append_eq_encode whole
  have count := readyCount_eq bytesEq reads
  simp only [push, count]
  rw [bytesEq]
  by_cases last : (encode ready).getLast? = some 13
  · rw [if_pos last]
    rcases List.eq_nil_or_concat ready with rfl | ⟨before, character, rfl⟩
    · cases last
    · rw [List.concat_eq_append] at last ⊢
      obtain rfl := (Text.Utf8.getLast?_encode_concat before character).1 last
      have split : encode (before ++ ['\r']) = encode before ++ [13] := by
        rw [Text.Utf8.encode_append]
        rfl
      have length : (encode (before ++ ['\r'])).length - 1 = (encode before).length := by
        rw [split, List.length_append, List.length_singleton, Nat.add_sub_cancel]
      rw [length, split, List.append_assoc, List.take_left, List.drop_left, textOf_encode]
      refine ⟨'\r' :: later, ?_, ?_⟩
      · rw [Text.Utf8.encode_cons, ← onward]
        rfl
      · rw [List.append_assoc, List.singleton_append, joinLineEnds_append]
        rintro ⟨-, next⟩
        cases next
  · rw [if_neg last, List.take_left, List.drop_left, textOf_encode]
    refine ⟨later, onward, ?_⟩
    rw [joinLineEnds_append]
    rintro ⟨final, -⟩
    obtain ⟨before, rfl⟩ := List.getLast?_eq_some_iff.1 final
    exact last ((Text.Utf8.getLast?_encode_concat before '\r').2 rfl)

/-- The text of the chunks to come. -/
def decode (feed : Feed) : List (List UInt8) → List Char
  | [] => feed.flush
  | chunk :: rest => (feed.push chunk).1 ++ (feed.push chunk).2.decode rest

/-- The text of encoded characters, however their bytes are cut into chunks. -/
theorem decode_of_encode {feed : Feed} {chunks : List (List UInt8)} {characters : List Char}
    (whole : feed.held ++ chunks.flatten = encode characters) :
    feed.decode chunks = joinLineEnds characters := by
  induction chunks generalizing feed characters with
  | nil =>
      rw [List.flatten_nil, List.append_nil] at whole
      rw [decode, flush, whole, textOf_encode]
  | cons chunk rest ih =>
      rw [List.flatten_cons, ← List.append_assoc] at whole
      obtain ⟨later, held, text⟩ := feed.push_spec whole
      rw [decode, ih held, text]

/-- Of any bytes at most an unfinished character and a carriage return are held back. -/
theorem readyCount_spec (bytes : List UInt8) :
    ∃ count, bytes.length - (Text.Utf8.read bytes).2.length ≤ count ∧ count ≤ bytes.length ∧
      readyCount bytes =
        if (bytes.take count).getLast? = some 13 then count - 1 else count := by
  refine ⟨if (Text.Utf8.read bytes).1.all Option.isSome
    then bytes.length - (Text.Utf8.read bytes).2.length else bytes.length, ?_, ?_, rfl⟩
  all_goals split <;> omega

theorem readyCount_le (bytes : List UInt8) : readyCount bytes ≤ bytes.length := by
  obtain ⟨count, -, high, ready⟩ := readyCount_spec bytes
  rw [ready]
  split <;> omega

/-- Bytes are ready up to a newline at least. -/
theorem lt_readyCount (body rest : List UInt8) :
    body.length < readyCount (body ++ 10 :: rest) := by
  obtain ⟨before, reads⟩ := Text.Utf8.read_append_ascii (show (10 : UInt8).toNat < 0x80 by decide)
    body
  have short := Text.Utf8.length_read rest
  obtain ⟨count, low, -, ready⟩ := readyCount_spec (body ++ 10 :: rest)
  rw [List.length_append, List.length_cons] at low
  simp only [reads] at low
  rw [ready]
  split
  · next returns =>
    have beyond : count ≠ body.length + 1 := by
      rintro rfl
      rw [List.take_length_add_append] at returns
      simp at returns
    omega
  · omega

/-- The text up to a newline is the same whatever follows it in its chunk. -/
theorem push_line (feed : Feed) {head : List UInt8} (lineEnd : head.getLast? = some 10) :
    ∃ body, feed.push head = (body ++ ['\n'], {}) ∧
      ∀ tail, ∃ more, (feed.push (head ++ tail)).1 = body ++ ['\n'] ++ more := by
  obtain ⟨bytes, rfl⟩ := List.getLast?_eq_some_iff.1 lineEnd
  obtain ⟨before, decoded⟩ := Text.Utf8.decodeLossy_append_ascii
    (show (10 : UInt8).toNat < 0x80 by decide) (feed.held ++ bytes)
  obtain ⟨body, joined⟩ := joinLineEnds_concat before
  have textOf_line (rest : List UInt8) : textOf (feed.held ++ bytes ++ 10 :: rest) =
      body ++ ['\n'] ++ textOf rest := by
    rw [textOf, decoded, ← joined, textOf, ← joinLineEnds_append (by simp), List.append_assoc]
    rfl
  refine ⟨body, ?_, fun tail => ?_⟩
  · have whole : feed.held ++ (bytes ++ [10]) = feed.held ++ bytes ++ 10 :: [] :=
      (List.append_assoc _ _ _).symm
    have all : readyCount (feed.held ++ bytes ++ [10]) = (feed.held ++ bytes ++ [10]).length :=
      Nat.le_antisymm (readyCount_le _) (List.length_append ▸ lt_readyCount _ [])
    simp only [push, whole, all, List.take_length, List.drop_length, textOf_line]
    exact congrArg (·, _) (List.append_nil _)
  · obtain ⟨more, count⟩ := Nat.exists_eq_add_of_lt (lt_readyCount (feed.held ++ bytes) tail)
    have whole : feed.held ++ (bytes ++ [10] ++ tail) = feed.held ++ bytes ++ 10 :: tail := by
      simp
    refine ⟨textOf (tail.take more), ?_⟩
    simp only [push, whole, count]
    rw [Nat.add_assoc, List.take_length_add_append, List.take_succ_cons, textOf_line]

/-- The text up to a newline is the same whatever follows it. -/
theorem decode_line (feed : Feed) (front : List (List UInt8)) {head : List UInt8}
    (lineEnd : head.getLast? = some 10) :
    ∃ body, feed.decode (front ++ [head]) = body ++ ['\n'] ∧
      ∀ tail back, ∃ more,
        feed.decode (front ++ (head ++ tail) :: back) = body ++ ['\n'] ++ more := by
  induction front generalizing feed with
  | nil =>
      obtain ⟨body, pushed, longer⟩ := feed.push_line lineEnd
      refine ⟨body, ?_, fun tail back => ?_⟩
      · rw [List.nil_append, decode, pushed]
        exact List.append_nil _
      · obtain ⟨more, text⟩ := longer tail
        rw [List.nil_append, decode, text, List.append_assoc]
        exact ⟨_, rfl⟩
  | cons chunk front ih =>
      obtain ⟨body, truncated, longer⟩ := ih (feed.push chunk).2
      refine ⟨(feed.push chunk).1 ++ body, ?_, fun tail back => ?_⟩
      · rw [List.cons_append, decode, truncated, List.append_assoc]
      · obtain ⟨more, text⟩ := longer tail back
        refine ⟨more, ?_⟩
        rw [List.cons_append, decode, text]
        simp only [List.append_assoc]

end Feed

end TokenRelay.Chat
