/-
# An error overtakes pieces

Supplies what a chat stream tells before the first error of its lines. The error is handed out as
soon as it is read, before pieces that wait; so the pieces of its own batch are told behind it, if
anybody still pulls, and a session never forwards them. All pieces before the error are told first
exactly if there are none in its batch.
-/

import TokenRelay.Proofs.Chat.Batches

namespace TokenRelay.Chat

open Text.Utf8 (encode)

/-- Up to the first error of its lines, a stream hands out the pieces before it, in their order, but
for those that the error overtakes; then comes the error. A session on the stream is told the same.
So all of the pieces come before the error exactly if it overtakes none. -/
theorem told_before_error_iff {stream : Stream} {front back : List Line} {message : String}
    (fresh : stream.reading = {}) (reads : stream.lines = front ++ .failure message :: back)
    (first : ∀ message, .failure message ∉ front) (goesOn : .done ∉ front) :
    (∃ told,
      told ++ overtaken stream.batches = front.flatMap Line.pieces ∧
      stream.Tells ⟨told, some (.remote message), Line.lastUsage none front⟩ ∧
      stream.toScript.fragments = told ∧
      stream.toScript.ending = .failed (.remote message)) ∧
    (stream.Tells
        ⟨front.flatMap Line.pieces, some (.remote message), Line.lastUsage none front⟩ ↔
      overtaken stream.batches = []) := by
  obtain ⟨pieces, error, usage⟩ :=
    @Story.tell_of_error (Reading.ending stream.broken) none _ _ _ _ reads first goesOn
  rw [← Stream.story_eq_tell fresh] at pieces error usage
  obtain ⟨fragments, ending⟩ := stream.toScript_story
  constructor
  · refine ⟨_, pieces, Stream.tells_iff.2 ?_, fragments, ?_⟩
    · rw [← error, ← usage]
    · rw [ending, error]
      rfl
  · rw [Stream.tells_iff, ← pieces]
    constructor
    · intro all
      have same := congrArg Story.pieces all
      simpa using same
    · intro none
      rw [none, List.append_nil, ← error, ← usage]

/-- An event with a piece of an answer. -/
def pieceEvent : List Char :=
  "data: \x7b\"choices\":[\x7b\"delta\":\x7b\"content\":\"a\"\x7d\x7d]\x7d\n\n".toList

/-- An event with an error. -/
def errorEvent : List Char :=
  "data: \x7b\"error\":\x7b\"message\":\"boom\"\x7d\x7d\n\n".toList

/-- In a chunk of its own the error comes behind the piece. -/
theorem piece_before_error :
    ({ chunks := [encode pieceEvent, encode errorEvent] } : Stream).Tells
      ⟨["a"], some (.remote "boom"), none⟩ := by
  have reads : ({ chunks := [encode pieceEvent, encode errorEvent] } : Stream).lines =
      [.delta ["a"] none] ++ .failure "boom" :: [] := by decide +kernel
  have noneOvertaken :
      overtaken ({ chunks := [encode pieceEvent, encode errorEvent] } : Stream).batches = [] := by
    decide +kernel
  exact (told_before_error_iff rfl reads (by simp) (by simp)).2.2 noneOvertaken

/-- In one chunk with the piece the error comes first, though the lines are the same. -/
theorem error_overtakes_piece :
    ({ chunks := [encode (pieceEvent ++ errorEvent)] } : Stream).lines =
        [.delta ["a"] none] ++ .failure "boom" :: [] ∧
      (({ chunks := [encode (pieceEvent ++ errorEvent)] } : Stream).pulls 2).1 =
        [.failed (.remote "boom"), .fragment "a"] ∧
      ¬ ({ chunks := [encode (pieceEvent ++ errorEvent)] } : Stream).Tells
        ⟨["a"], some (.remote "boom"), none⟩ := by
  have pulled : (({ chunks := [encode (pieceEvent ++ errorEvent)] } : Stream).pulls 2).1 =
      [.failed (.remote "boom"), .fragment "a"] := by decide +kernel
  refine ⟨by decide +kernel, pulled, ?_⟩
  rintro ⟨last, tells, -⟩
  have same := pulled.symm.trans (congrArg Prod.fst tells)
  simp at same

end TokenRelay.Chat
