/-
# What the grouping into batches changes

Supplies how the story of a chat stream depends on its lines and on their grouping into batches.
Where no line ends the story, the grouping does not matter. An error is told instead of the pieces
before it in its batch, which it overtakes. The mark of the end does not keep the lines behind it in
its batch from being read.
-/

import TokenRelay.Proofs.Chat.Feed
import TokenRelay.Proofs.Chat.Story

namespace TokenRelay.Chat

/-- The text ends where a line ends. -/
def Line.Closed (text : List Char) : Prop :=
  ∀ rest, telling (text ++ rest) = telling text ++ telling rest

/-- The lines of the batches are those of the text, up to where a connection that breaks cuts the
last event off. -/
theorem lines_batchesFrom (broken : Bool) (feed : Feed) (buffer : List Char)
    (chunks : List (List UInt8)) :
    ∃ complete left, buffer ++ feed.decode chunks = complete ++ left ∧
      (batchesFrom broken feed buffer chunks).flatten = Line.telling complete ∧
      (broken = false → left = []) ∧ (left ≠ [] → Line.Closed complete) := by
  induction chunks generalizing feed buffer with
  | nil =>
      cases broken with
      | true => exact ⟨[], _, rfl, rfl, nofun, fun _ _ => rfl⟩
      | false =>
          exact ⟨_, [], (List.append_nil _).symm, List.append_nil _, fun _ => rfl,
            fun none => absurd rfl none⟩
  | cons chunk rest ih =>
      obtain ⟨cut, ends⟩ := Reading.cutFrom_spec [] (buffer ++ (feed.push chunk).1)
      simp only [Feed.decode, batchesFrom]
      generalize Reading.cutFrom [] (buffer ++ (feed.push chunk).1) = parts at cut ends ⊢
      obtain ⟨events, tail⟩ := parts
      rw [List.reverse_nil, List.nil_append] at cut
      have taken (text : List Char) := Line.telling_flatten_append text ends
      obtain ⟨complete, left, text, lines, whole, closed⟩ := ih (feed.push chunk).2 tail
      refine ⟨events.flatten ++ complete, left, ?_, ?_, whole, fun some more => ?_⟩
      · rw [← List.append_assoc, ← cut, List.append_assoc, text, List.append_assoc]
      · rw [taken, ← lines, List.flatten_cons]
      · rw [List.append_assoc, taken, taken, closed some, List.append_assoc]

namespace Stream

/-- The batches of lines that a stream brings. -/
def batches (stream : Stream) : List (List Line) :=
  batchesFrom stream.broken stream.reading.feed stream.reading.buffer stream.chunks

/-- The lines that a stream brings. -/
def lines (stream : Stream) : List Line :=
  stream.batches.flatten

/-- The story of a stream of which nothing has been read is that of its batches. -/
theorem story_eq_tell {stream : Stream} (fresh : stream.reading = {}) :
    stream.story = .tell (Reading.ending stream.broken) none stream.batches := by
  obtain ⟨reading, chunks, broken⟩ := stream
  subst fresh
  rfl

theorem lines_spec {stream : Stream} (fresh : stream.reading = {}) :
    ∃ complete left, ({} : Feed).decode stream.chunks = complete ++ left ∧
      stream.lines = Line.telling complete ∧ (stream.broken = false → left = []) ∧
      (left ≠ [] → Line.Closed complete) := by
  obtain ⟨reading, chunks, broken⟩ := stream
  subst fresh
  exact lines_batchesFrom broken {} [] chunks

/-- The cuts between chunks do not show in the lines. -/
theorem lines_of_encode {chunks : List (List UInt8)} {characters : List Char}
    (whole : chunks.flatten = Text.Utf8.encode characters) :
    ({ chunks } : Stream).lines = Line.telling (joinLineEnds characters) := by
  obtain ⟨complete, left, text, lines, all, -⟩ := @lines_spec { chunks } rfl
  rw [all rfl, List.append_nil, @Feed.decode_of_encode {} _ _ whole] at text
  rw [lines, text]

end Stream

/-- The pieces that the first error overtakes: those before it in its batch. -/
def overtaken : List (List Line) → List String
  | [] => []
  | batch :: rest =>
    match Line.upToError batch with
    | (_, none) => overtaken rest
    | (lines, some _) => lines.flatMap Line.pieces

/-- The lines that are read though the mark of the end has come: those behind it in its batch. -/
def behindMark : List (List Line) → List Line
  | [] => []
  | batch :: rest =>
    if .done ∈ batch then (batch.dropWhile (· ≠ .done)).tail else behindMark rest

namespace Story

variable {ending : Option StreamError} {known : Option Usage} {batches : List (List Line)}

/-- A line of batches stands in the first one or behind it. -/
private theorem split_cases {batch front back : List Line} {line : Line}
    (whole : (batch :: batches).flatten = front ++ line :: back) :
    (∃ more, front = batch ++ more ∧ batches.flatten = more ++ line :: back) ∨
      ∃ more, batch = front ++ line :: more ∧ back = more ++ batches.flatten := by
  rw [List.flatten_cons, List.append_eq_append_iff] at whole
  rcases whole with ⟨more, same, rest⟩ | ⟨more, same, rest⟩
  · exact .inl ⟨more, same, rest⟩
  · cases more with
    | nil => exact .inl ⟨[], by simpa using same.symm, by simpa using rest.symm⟩
    | cons first more =>
        obtain ⟨rfl, rfl⟩ := List.cons.inj rest
        exact .inr ⟨more, same, rfl⟩

theorem tell_cons {batch : List Line} (sound : ∀ message, .failure message ∉ batch) :
    tell ending known (batch :: batches) =
      (if .done ∈ batch then ⟨[], none, Line.lastUsage known batch⟩
        else tell ending (Line.lastUsage known batch) batches).after
          (batch.flatMap Line.pieces) := by
  rw [tell, Line.upToError_sound sound]

theorem overtaken_cons {batch : List Line} (sound : ∀ message, .failure message ∉ batch) :
    overtaken (batch :: batches) = overtaken batches := by
  rw [overtaken, Line.upToError_sound sound]

/-- Lines of which none ends the story are all told. -/
theorem tell_of_plain (sound : ∀ message, .failure message ∉ batches.flatten)
    (goesOn : .done ∉ batches.flatten) :
    tell ending known batches =
      ⟨batches.flatten.flatMap Line.pieces, ending, Line.lastUsage known batches.flatten⟩ := by
  induction batches generalizing known with
  | nil => rfl
  | cons batch batches ih =>
      simp only [List.flatten_cons, List.mem_append, not_or] at sound goesOn
      rw [tell_cons fun message => (sound message).1, if_neg goesOn.1,
        ih (fun message => (sound message).2) goesOn.2]
      simp [after, Line.lastUsage_append]

/-- The first error ends the story. Of the pieces before it those that it overtakes are missing. -/
theorem tell_of_error {front back : List Line} {message : String}
    (whole : batches.flatten = front ++ .failure message :: back)
    (first : ∀ message, .failure message ∉ front) (goesOn : .done ∉ front) :
    (tell ending known batches).pieces ++ overtaken batches = front.flatMap Line.pieces ∧
      (tell ending known batches).error = some (.remote message) ∧
      (tell ending known batches).usage = Line.lastUsage known front := by
  induction batches generalizing front known with
  | nil => simp at whole
  | cons batch batches ih =>
      rcases split_cases whole with ⟨more, rfl, later⟩ | ⟨more, rfl, -⟩
      · simp only [List.mem_append, not_or] at first goesOn
        obtain ⟨pieces, error, usage⟩ :=
          @ih (Line.lastUsage known batch) more later (fun message => (first message).2) goesOn.2
        rw [tell_cons fun message => (first message).1, if_neg goesOn.1,
          overtaken_cons fun message => (first message).1, List.flatMap_append, ← pieces,
          Line.lastUsage_append]
        exact ⟨List.append_assoc _ _ _, error, usage⟩
      · simp [tell, overtaken, Line.upToError_failing message more first]

/-- The first mark of the end ends the story, unless an error follows in its batch. -/
theorem tell_of_mark {front back : List Line}
    (whole : batches.flatten = front ++ .done :: back)
    (sound : ∀ message, .failure message ∉ front) (first : .done ∉ front) :
    behindMark batches <+: back ∧
      ((∃ message, .failure message ∈ behindMark batches) →
        (tell ending known batches).error ≠ none) ∧
      ((∀ message, .failure message ∉ behindMark batches) →
        tell ending known batches =
          ⟨(front ++ behindMark batches).flatMap Line.pieces, none,
            Line.lastUsage known (front ++ behindMark batches)⟩) := by
  induction batches generalizing front known with
  | nil => simp at whole
  | cons batch batches ih =>
      rcases split_cases whole with ⟨more, rfl, later⟩ | ⟨more, rfl, rfl⟩
      · -- The mark stands in a later batch, and all of this one is told.
        simp only [List.mem_append, not_or] at first sound
        obtain ⟨behind, fails, ends⟩ :=
          @ih (Line.lastUsage known batch) more later (fun message => (sound message).2) first.2
        rw [tell_cons fun message => (sound message).1, if_neg first.1, behindMark,
          if_neg first.1]
        refine ⟨behind, fails, fun quiet => ?_⟩
        rw [ends quiet]
        simp [after, Line.lastUsage_append]
      · -- The mark stands in this batch, which is read to its end all the same.
        have behind : behindMark ((front ++ .done :: more) :: batches) = more := by
          have passed : ∀ line ∈ front, decide (line ≠ .done) = true := by
            intro line inside
            exact decide_eq_true fun same => first (same ▸ inside)
          rw [behindMark, if_pos (by simp), List.dropWhile_append_of_pos passed]
          rfl
        rw [behind]
        refine ⟨List.prefix_append _ _, ?_, ?_⟩
        · rintro ⟨message, inside⟩
          cases error : (Line.upToError (front ++ .done :: more)).2 with
          | some _ => simp [tell, error]
          | none =>
              have sound := Line.sound_of_upToError error message
              exact absurd (List.mem_append_right _ (.tail _ inside)) sound
        · intro quiet
          have sound : ∀ message, .failure message ∉ front ++ .done :: more := by
            intro message inside
            rcases List.mem_append.1 inside with front | behind
            · exact sound message front
            · exact quiet message (by simpa using behind)
          rw [tell_cons sound, if_pos (by simp)]
          simp [after, Line.pieces, Line.lastUsage, Line.usage]

end Story

end TokenRelay.Chat
