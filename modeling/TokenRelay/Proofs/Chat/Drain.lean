/-
# A chat stream brings the pieces of its lines

Supplies that neither chunks nor line ends matter to a chat stream whose text is in order: without
an error, and with nothing that counts behind the mark of the end. Then no line ends the story of
the stream before all of them are told, whatever the batches are.
-/

import TokenRelay.Proofs.Chat.Batches

namespace TokenRelay.Chat

open Text.Utf8 (encode)

/-- None of the lines is an error, and the mark of the end is followed by nothing that counts. -/
structure Orderly (lines : List Line) : Prop where
  sound : ∀ message, .failure message ∉ lines
  ending : ∀ front back, lines = front ++ .done :: back → ∀ line ∈ back, line = .skipped

/-- Pulled again and again, a stream of chunks hands out the pieces of the lines in their order, and
then the end as often as it is asked. What is known about the turn then is what the lines say. -/
def Drains (chunks : List (List UInt8)) (lines : List Line) : Prop :=
  ∀ extra, ∃ last,
    ({ chunks } : Stream).pulls ((lines.flatMap Line.pieces).length + extra) =
      ((lines.flatMap Line.pieces).map .fragment ++ List.replicate extra .finished, last) ∧
    (0 < extra →
      last.reading.metadata = ({ usage := Line.lastUsage none lines } : Reading).metadata)

/-- A text with a carriage return before every newline. -/
def withReturns (characters : List Char) : List Char :=
  characters.flatMap fun character => if character = '\n' then ['\r', '\n'] else [character]

theorem joinLineEnds_withReturns {characters : List Char} (plain : '\r' ∉ characters) :
    joinLineEnds (withReturns characters) = joinLineEnds characters := by
  induction characters with
  | nil => rfl
  | cons character rest ih =>
      obtain ⟨other, plainRest⟩ : character ≠ '\r' ∧ '\r' ∉ rest := by
        simpa [eq_comm] using plain
      have alone (text : List Char) : joinLineEnds (character :: text) =
          character :: joinLineEnds text :=
        joinLineEnds_cons fun pair => other pair.1
      have rest := ih plainRest
      unfold withReturns at rest ⊢
      rw [List.flatMap_cons, alone]
      by_cases newline : character = '\n'
      · subst character
        simp only [if_true, List.cons_append, List.nil_append, joinLineEnds, rest]
      · rw [if_neg newline, List.singleton_append, alone, rest]

/-- An orderly text still is without the lines that are skipped, and then nothing is left behind
the mark of the end. -/
theorem Orderly.telling {text : List Char} (orderly : Orderly (Line.ofText text)) :
    (∀ message, .failure message ∉ Line.telling text) ∧
      ∀ front back, Line.telling text = front ++ .done :: back → back = [] := by
  refine ⟨fun message inside => orderly.sound message (List.mem_filter.1 inside).1, ?_⟩
  intro front back same
  obtain ⟨front', back', whole, -, rest⟩ := List.filter_eq_append_iff.1 same
  obtain ⟨skipped, more, rfl, -, -, rfl⟩ := List.filter_eq_cons_iff.1 rest
  rw [List.filter_eq_nil_iff]
  intro line inside
  have quiet := orderly.ending (front' ++ skipped) more (by rw [whole, List.append_assoc]) line
    inside
  simp [quiet]

/-- The story of an orderly text tells all its lines. -/
theorem Orderly.story {characters : List Char} {chunks : List (List UInt8)}
    (orderly : Orderly (Line.ofText (joinLineEnds characters)))
    (whole : chunks.flatten = encode characters) :
    ({ chunks } : Stream).story =
      ⟨(Line.ofText (joinLineEnds characters)).flatMap Line.pieces, none,
        Line.lastUsage none (Line.ofText (joinLineEnds characters))⟩ := by
  obtain ⟨sound, ending⟩ := orderly.telling
  have lines : ({ chunks } : Stream).batches.flatten = Line.telling (joinLineEnds characters) :=
    Stream.lines_of_encode whole
  have pieces := Line.pieces_filter (Line.ofText (joinLineEnds characters))
  have usage := Line.lastUsage_filter none (Line.ofText (joinLineEnds characters))
  rw [← Line.telling] at pieces usage
  rw [Stream.story_eq_tell rfl, ← pieces, ← usage]
  by_cases marked : .done ∈ Line.telling (joinLineEnds characters)
  · obtain ⟨front, back, same, first⟩ := List.eq_append_cons_of_mem marked
    obtain rfl := ending front back same
    rw [same] at sound lines ⊢
    simp only [List.mem_append, not_or] at sound
    obtain ⟨behind, -, ends⟩ := @Story.tell_of_mark (Reading.ending false) none _ _ _ lines
      (fun message => (sound message).1) first
    rw [List.prefix_nil] at behind
    rw [behind, List.append_nil] at ends
    rw [ends fun _ => List.not_mem_nil]
    simp [Line.pieces, Line.lastUsage, Line.usage]
  · rw [← lines] at sound marked ⊢
    exact Story.tell_of_plain sound marked

theorem drains_of_orderly {characters : List Char} {chunks : List (List UInt8)}
    (orderly : Orderly (Line.ofText (joinLineEnds characters)))
    (whole : chunks.flatten = encode characters) :
    Drains chunks (Line.ofText (joinLineEnds characters)) := by
  intro extra
  obtain ⟨results, known⟩ := Stream.pulls_of_end (orderly.story whole) extra
  refine ⟨_, Prod.ext results rfl, fun some => ?_⟩
  simp only [Reading.metadata, known some]

/-- Neither the cuts between chunks nor the choice of line ends matters: a stream of the bytes of an
orderly text brings the pieces of its lines, however the bytes are cut, and whether its lines end
with or without carriage returns. -/
theorem drains_lines {characters : List Char} {chunks : List (List UInt8)}
    (whole : chunks.flatten = encode characters)
    (orderly : Orderly (Line.ofText (joinLineEnds characters))) :
    Drains chunks (Line.ofText (joinLineEnds characters)) ∧
      (∀ others : List (List UInt8), others.flatten = chunks.flatten →
        Drains others (Line.ofText (joinLineEnds characters))) ∧
      ('\r' ∉ characters → ∀ others : List (List UInt8),
        others.flatten = encode (withReturns characters) →
        Drains others (Line.ofText (joinLineEnds characters))) := by
  refine ⟨drains_of_orderly orderly whole, ?_, ?_⟩
  · intro others same
    exact drains_of_orderly orderly (same.trans whole)
  · intro plain others returns
    rw [← joinLineEnds_withReturns plain] at orderly ⊢
    exact drains_of_orderly orderly returns

/-- An answer of one piece, and the mark of the end. -/
def answer : List Char :=
  "data: \x7b\"choices\":[\x7b\"delta\":\x7b\"content\":\"é\"\x7d\x7d]\x7d\n\n".toList ++
    "data: [DONE]\n\n".toList

/-- The answer brings its piece, also if the cut is in its accented letter or its lines end with
carriage returns. -/
theorem drains_answer :
    Drains [(encode answer).take 40, (encode answer).drop 40]
        [.delta ["é"] none, .skipped, .done, .skipped, .skipped] ∧
      Drains [encode (withReturns answer)]
        [.delta ["é"] none, .skipped, .done, .skipped, .skipped] := by
  have lines : Line.ofText (joinLineEnds answer) =
      [.delta ["é"] none, .skipped, .done, .skipped, .skipped] := by decide +kernel
  have orderly : Orderly (Line.ofText (joinLineEnds answer)) := by
    rw [lines]
    constructor
    · intro message inside
      simp at inside
    · intro front back same
      obtain ⟨_, -, _, -, -, rest⟩ : ∃ first, front = .delta ["é"] none :: first ∧
          ∃ second, first = .skipped :: second ∧ second = [] ∧ back = [.skipped, .skipped] := by
        simpa [List.cons_eq_append_iff] using same
      simp [rest]
  have whole : [(encode answer).take 40, (encode answer).drop 40].flatten = encode answer := by
    simp
  have plain : '\r' ∉ answer := by decide +kernel
  obtain ⟨cut, -, returns⟩ := drains_lines whole orderly
  rw [lines] at cut returns
  exact ⟨cut, returns plain _ (List.append_nil _)⟩

end TokenRelay.Chat
