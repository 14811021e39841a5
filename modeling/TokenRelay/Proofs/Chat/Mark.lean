/-
# What stands behind the mark of the end

Supplies when a chat stream goes on as if its bytes ended behind the mark of the end. Chunks behind
the batch of the mark are never read. The lines behind the mark in its own batch are, so they must
not count; and an error before the mark must not overtake pieces in one stream that it does not
overtake in the other, since the cut may split its batch.
-/

import TokenRelay.Proofs.Chat.Batches

namespace TokenRelay.Chat

open Text.Utf8 (encode)

/-- The lines change nothing where the given token counts are known. -/
structure Quiet (known : Option Usage) (lines : List Line) : Prop where
  sound : ∀ message, .failure message ∉ lines
  silent : lines.flatMap Line.pieces = []
  settled : Line.lastUsage known lines = known

namespace Story

variable {ending other : Option StreamError} {known : Option Usage}
  {batches others : List (List Line)} {front back back' : List Line}

/-- Batches that go on behind the mark of the end tell the same as batches that stop there, exactly
if nothing counts behind the mark in its batch. -/
theorem tell_eq_iff_quiet (whole : batches.flatten = front ++ .done :: back)
    (short : others.flatten = front ++ [.done]) (sound : ∀ message, .failure message ∉ front)
    (first : .done ∉ front) :
    tell ending known batches = tell other known others ↔
      Quiet (Line.lastUsage known front) (behindMark batches) := by
  obtain ⟨-, fails, ends⟩ := @tell_of_mark ending known _ _ _ whole sound first
  obtain ⟨nothing, -, stops⟩ := @tell_of_mark other known _ _ _ short sound first
  rw [List.prefix_nil] at nothing
  rw [nothing, List.append_nil] at stops
  rw [stops fun _ => List.not_mem_nil]
  constructor
  · intro same
    have quiet : ∀ message, .failure message ∉ behindMark batches := by
      intro message inside
      exact fails ⟨message, inside⟩ (by rw [same])
    rw [ends quiet] at same
    constructor
    case sound => exact quiet
    case silent => simpa using congrArg pieces same
    case settled => simpa [Line.lastUsage_append] using congrArg usage same
  · intro quiet
    rw [ends quiet.sound, List.flatMap_append, quiet.silent, Line.lastUsage_append, quiet.settled,
      List.append_nil]

/-- Batches with the same lines up to their first error tell the same, exactly if the error
overtakes the same pieces. -/
theorem tell_eq_iff_overtaken {message : String}
    (whole : batches.flatten = front ++ .failure message :: back)
    (short : others.flatten = front ++ .failure message :: back')
    (sound : ∀ message, .failure message ∉ front) (first : .done ∉ front) :
    tell ending known batches = tell other known others ↔
      overtaken batches = overtaken others := by
  obtain ⟨told, error, usage⟩ := @tell_of_error ending known _ _ _ _ whole sound first
  obtain ⟨told', error', usage'⟩ := @tell_of_error other known _ _ _ _ short sound first
  constructor
  · intro same
    rw [same, ← told'] at told
    exact List.append_cancel_left told
  · intro same
    rw [same, ← told'] at told
    exact Story.ext (List.append_cancel_right told) (error.trans error'.symm)
      (usage.trans usage'.symm)

end Story

namespace Stream

/-- Pulled up to its end or its first error, each of two streams gives the same, and the same is
known then. -/
def Alike (first second : Stream) : Prop :=
  ∃ story, first.Tells story ∧ second.Tells story

theorem alike_iff {first second : Stream} : first.Alike second ↔ first.story = second.story := by
  simp [Alike, tells_iff, eq_comm]

/-- The bytes of the first stream end, without the connection breaking, behind a line of the second
one, which goes on in the same chunk and in others. -/
inductive IsCut : Stream → Stream → Prop where
  | behindLine (front back : List (List UInt8)) (head tail : List UInt8) (broken : Bool)
      (lineEnd : head.getLast? = some 10) :
      IsCut { chunks := front ++ [head] } { chunks := front ++ (head ++ tail) :: back, broken }

variable {short whole : Stream} {before : List Line}

/-- A stream brings the lines before a cut first, if it brings the last of them at all. It may not,
where its connection breaks in the event of that line. -/
theorem IsCut.lines {line : Line} (cut : IsCut short whole)
    (ends : short.lines = before ++ [line]) (first : line ∉ before)
    (completed : line ∈ whole.lines) : ∃ more, whole.lines = before ++ line :: more := by
  obtain ⟨front, back, head, tail, broken, lineEnd⟩ := cut
  obtain ⟨body, cutText, longer⟩ := ({} : Feed).decode_line front lineEnd
  obtain ⟨more, text⟩ := longer tail back
  obtain ⟨_, _, cutAll, cutLines, all, -⟩ := @lines_spec { chunks := front ++ [head] } rfl
  obtain ⟨complete, left, parts, lines, -, closed⟩ :=
    @lines_spec { chunks := front ++ (head ++ tail) :: back, broken } rfl
  rw [all rfl, List.append_nil, cutText] at cutAll
  rw [ends, ← cutAll] at cutLines
  rw [text] at parts
  rw [lines] at completed ⊢
  rcases List.append_eq_append_iff.1 parts with ⟨rest, rfl, -⟩ | ⟨rest, same, leftEq⟩
  · rw [Line.telling_closed_append, ← cutLines, List.append_assoc]
    exact ⟨_, rfl⟩
  · -- The connection broke within the text up to the cut, and the rest of that text has no lines.
    refine ⟨[], ?_⟩
    by_cases empty : rest = []
    · rw [cutLines, same, empty, List.append_nil]
    · rw [same, closed (by simp [leftEq, empty])] at cutLines
      rcases List.eq_nil_or_concat (Line.telling rest) with nothing | ⟨rest', last, some⟩
      · rw [cutLines, nothing, List.append_nil]
      · rw [some, List.concat_eq_append, ← List.append_assoc] at cutLines
        have inside := List.append_inj_left' cutLines rfl ▸ List.mem_append_left rest' completed
        exact absurd inside first

/-- Once the event of the mark of the end is complete, a stream goes on as if its bytes ended behind
the line of the mark, exactly if the lines behind the mark in its batch change nothing. If an error
stands before the mark, it does so exactly if the error overtakes the same pieces in both
streams. -/
theorem stops_at_mark_iff (cut : IsCut short whole) (mark : short.lines = before ++ [.done])
    (first : .done ∉ before) (completed : .done ∈ whole.lines) :
    ((∀ message, .failure message ∉ before) →
      (whole.Alike short ↔ Quiet (Line.lastUsage none before) (behindMark whole.batches))) ∧
    ((∃ message, .failure message ∈ before) →
      (whole.Alike short ↔ overtaken whole.batches = overtaken short.batches)) := by
  obtain ⟨more, lines⟩ := cut.lines mark first completed
  have stories : whole.story = .tell (Reading.ending whole.broken) none whole.batches ∧
      short.story = .tell (Reading.ending short.broken) none short.batches := by
    cases cut
    exact ⟨story_eq_tell rfl, story_eq_tell rfl⟩
  rw [alike_iff, stories.1, stories.2]
  constructor
  · intro sound
    exact Story.tell_eq_iff_quiet lines mark sound first
  · rintro ⟨message, failing⟩
    rcases Line.sound_or_failing before with sound | ⟨front, message, back, rfl, sound⟩
    · exact absurd failing (sound message)
    · rw [List.append_assoc, List.cons_append] at lines mark
      exact Story.tell_eq_iff_overtaken lines mark sound fun inside =>
        first (List.mem_append_left _ inside)

/-- The mark of the end, up to the end of its line. -/
def markLine : List UInt8 := encode "data: [DONE]\n".toList

/-- The blank line that completes the event, and an event with a piece behind it. -/
def lateEvent : List Char :=
  "\ndata: \x7b\"choices\":[\x7b\"delta\":\x7b\"content\":\"x\"\x7d\x7d]\x7d\n\n".toList

/-- A piece in a chunk behind that of the mark is never read. -/
theorem stops_at_mark_in_own_chunk :
    Alike { chunks := [markLine ++ encode ['\n'], encode lateEvent] } { chunks := [markLine] } := by
  have cut : IsCut { chunks := [markLine] }
      { chunks := [markLine ++ encode ['\n'], encode lateEvent] } :=
    .behindLine [] [encode lateEvent] markLine (encode ['\n']) false (by decide)
  have mark : ({ chunks := [markLine] } : Stream).lines = [] ++ [.done] := by decide +kernel
  have behind : behindMark
      ({ chunks := [markLine ++ encode ['\n'], encode lateEvent] } : Stream).batches = [] := by
    decide +kernel
  have quiet : Quiet none (behindMark
      ({ chunks := [markLine ++ encode ['\n'], encode lateEvent] } : Stream).batches) := by
    rw [behind]
    exact ⟨fun _ => List.not_mem_nil, rfl, rfl⟩
  obtain ⟨sound, -⟩ := stops_at_mark_iff cut mark List.not_mem_nil (by decide +kernel)
  exact (sound fun _ => List.not_mem_nil).2 quiet

/-- A piece in the chunk of the mark is handed out. -/
theorem piece_behind_mark :
    IsCut { chunks := [markLine] } { chunks := [markLine ++ encode lateEvent] } ∧
      ({ chunks := [markLine] } : Stream).lines = [.done] ∧
      .done ∈ ({ chunks := [markLine ++ encode lateEvent] } : Stream).lines ∧
      (({ chunks := [markLine] } : Stream).pulls 1).1 = [.finished] ∧
      (({ chunks := [markLine ++ encode lateEvent] } : Stream).pulls 1).1 = [.fragment "x"] ∧
      ¬ Alike { chunks := [markLine ++ encode lateEvent] } { chunks := [markLine] } := by
  rw [alike_iff]
  refine ⟨.behindLine [] [] markLine (encode lateEvent) false (by decide), ?_⟩
  decide +kernel

end Stream

end TokenRelay.Chat
