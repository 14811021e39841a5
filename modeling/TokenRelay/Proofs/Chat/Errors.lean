/-
# Error objects

Supplies when a chat stream notices an error object in its data. A line is read as a whole, and a
line of which any part does not fit is skipped, the error object with it. So the stream fails
because of an error object if the rest of its line fits, and otherwise goes on as if the line were
not there.
-/

import TokenRelay.Proofs.Chat.Batches
import TokenRelay.Proofs.Json.Acceptance

namespace TokenRelay.Chat

open Text.Utf8 (encode)

/-- The data of a line is a JSON object with an object in its member `error`. -/
structure CarriesError (line : List Char) (members parts : List (Option String × Tree)) :
    Prop where
  data : ∃ content, line = Line.label ++ content ∧
    Document.ofUnits ((Text.trimChars content).map some) = ⟨.object members .closed, false⟩
  error : (some "error", .object parts .closed) ∈ members

/-- Everything in an object and in the error object inside fits: all keys are texts, none that is
known comes twice, the choices and the token counts can be read, and the error has a message. -/
structure Noticeable (members parts : List (Option String × Tree)) : Prop where
  named : ∀ member ∈ members, member.1 ≠ none
  once : ∀ name ∈ ["choices", "usage", "error"], Record.times name members ≤ 1
  choices : ∀ tree, (some "choices", tree) ∈ members →
    ∃ contents, Reader.list (Delta.choiceRecord.reader false) 126 tree = .ok contents
  usage : ∀ tree, (some "usage", tree) ∈ members →
    ∃ usage, Reader.option (Delta.usageRecord.reader false) 126 tree = .ok usage
  partsNamed : ∀ part ∈ parts, part.1 ≠ none
  messageOnce : Record.times "message" parts ≤ 1
  message : ∃ text, (some "message", .string (some text)) ∈ parts

namespace Delta

variable {members parts : List (Option String × Tree)}

/-- An error is read from an object whose only message is a string. -/
theorem errorRecord_reader_eq_ok_iff {depth : Nat} {text : String} :
    errorRecord.reader false (depth + 1) (.object parts .closed) = .ok text ↔
      (∀ part ∈ parts, part.1 ≠ none) ∧ Record.times "message" parts ≤ 1 ∧
        (some "message", .string (some text)) ∈ parts := by
  have distinct : (errorRecord.fields.map Field.name).Nodup := by decide
  rw [Record.reader_object_eq_ok_iff distinct]
  constructor
  · rintro ⟨⟨named, once, -⟩, built⟩
    have once := once _ List.mem_cons_self
    obtain ⟨_, _, made, content, rfl⟩ := Record.exists_of_build_and built
    cases made
    obtain ⟨tree, present, found⟩ := Record.exists_of_build_required content
    unfold Reader.string at found
    split at found
    · cases found
      exact ⟨named, once, (Record.content?_eq_some_iff once).1 present⟩
    · cases found
  · rintro ⟨named, once, inside⟩
    have content := (Record.content?_eq_some_iff once).2 inside
    refine ⟨⟨named, List.forall_mem_singleton.2 once, ?_⟩, ?_⟩
    · refine List.forall_mem_singleton.2 fun tree there => ?_
      cases content.symm.trans ((Record.content?_eq_some_iff once).2 there)
      rfl
    · have nothing : (Record.pure (id : String → String)).build depth (Record.content? parts) =
          .ok id := rfl
      exact Record.build_and nothing (Record.build_required content rfl)

/-- The error object is what is read as the error. -/
theorem option_errorRecord_object (parts : List (Option String × Tree)) :
    Reader.option (errorRecord.reader false) 126 (.object parts .closed) =
      (errorRecord.reader false 126 (.object parts .closed)).map some := rfl

theorem names_record : record.fields.map Field.name = ["choices", "usage", "error"] := rfl

theorem distinct_record : (record.fields.map Field.name).Nodup := by decide

theorem lenient_record : record.Lenient :=
  (((Record.lenient_pure _).and (Record.lenient_defaulted _ _ _)).and
    (Record.lenient_defaulted _ _ _)).and (Record.lenient_defaulted _ _ _)

/-- With an error object in it, an object passes the checks exactly if everything fits. -/
theorem accepts_iff_noticeable (inside : (some "error", .object parts .closed) ∈ members) :
    Record.Accepts record.fields 126 members ↔ Noticeable members parts := by
  constructor
  · rintro ⟨named, once, checked⟩
    have choices := checked _ (.head _)
    have usage := checked _ (.tail _ (.head _))
    obtain ⟨error, read⟩ := Record.accepts_eq_ok_iff.1
      (checked _ (.tail _ (.tail _ (.head _))) _ inside)
    rw [option_errorRecord_object] at read
    cases message : errorRecord.reader false 126 (.object parts .closed) with
    | error fault =>
        rw [message] at read
        cases read
    | ok text =>
        obtain ⟨partsNamed, messageOnce, there⟩ := errorRecord_reader_eq_ok_iff.1 message
        exact {
          named := named
          once := names_record ▸ List.forall_mem_map.2 once
          choices := fun tree inside => Record.accepts_eq_ok_iff.1 (choices tree inside)
          usage := fun tree inside => Record.accepts_eq_ok_iff.1 (usage tree inside)
          partsNamed := partsNamed
          messageOnce := messageOnce
          message := ⟨text, there⟩ }
  · rintro ⟨named, once, choices, usage, partsNamed, messageOnce, text, there⟩
    have error : ∀ tree, (some "error", tree) ∈ members →
        Reader.option (errorRecord.reader false) 126 tree = .ok (some text) := by
      intro tree other
      have single : Record.times "error" members ≤ 1 := once _ (.tail _ (.tail _ (.head _)))
      have found := (Record.content?_eq_some_iff single).2 inside
      cases found.symm.trans ((Record.content?_eq_some_iff single).2 other)
      rw [option_errorRecord_object,
        errorRecord_reader_eq_ok_iff.2 ⟨partsNamed, messageOnce, there⟩]
      rfl
    refine ⟨named, List.forall_mem_map.1 (names_record ▸ once), ?_⟩
    refine List.forall_mem_cons.2 ⟨fun tree inside => Record.accepts_eq_ok_iff.2 ?_,
      List.forall_mem_cons.2 ⟨fun tree inside => Record.accepts_eq_ok_iff.2 ?_,
        List.forall_mem_singleton.2 fun tree inside => Record.accepts_eq_ok_iff.2 ?_⟩⟩
    · exact choices tree inside
    · exact usage tree inside
    · exact ⟨_, error tree inside⟩

/-- What is read with an error object in it has the message of an error. -/
theorem exists_message (inside : (some "error", .object parts .closed) ∈ members) {delta : Delta}
    (read : reader 127 (.object members .closed) = .ok delta) :
    ∃ message, delta.error = some message := by
  obtain ⟨accepted, built⟩ := (Record.reader_object_eq_ok_iff distinct_record).1 read
  have single : Record.times "error" members ≤ 1 :=
    accepted.once _ (.tail _ (.tail _ (.head _)))
  have content := (Record.content?_eq_some_iff single).2 inside
  obtain ⟨_, error, second, last, rfl⟩ := Record.exists_of_build_and built
  obtain ⟨_, _, first, -, rfl⟩ := Record.exists_of_build_and second
  obtain ⟨_, _, made, -, rfl⟩ := Record.exists_of_build_and first
  cases made
  simp only [Record.defaulted, content, option_errorRecord_object] at last
  cases message : errorRecord.reader false 126 (.object parts .closed) with
  | error fault =>
      rw [message] at last
      cases last
  | ok text =>
      rw [message] at last
      cases last
      exact ⟨text, rfl⟩

end Delta

namespace Line

variable {line : List Char} {members parts : List (Option String × Tree)}

/-- A line with an error object is an error if everything in it fits, and skipped otherwise. -/
theorem ofChars_of_carries (carries : CarriesError line members parts) :
    (Noticeable members parts → ∃ message, ofChars line = .failure message) ∧
      (¬ Noticeable members parts → ofChars line = .skipped) := by
  obtain ⟨⟨content, rfl, data⟩, inside⟩ := carries
  have unmarked : Text.trimChars content ≠ doneMark := by
    intro marked
    rw [marked] at data
    cases data
  have labelled : label.isPrefixOf (label ++ content) = true :=
    List.isPrefixOf_iff_prefix.2 (List.prefix_append _ _)
  have whole : Delta.reader.run (Document.ofUnits ((Text.trimChars content).map some)) =
      Delta.reader 127 (.object members .closed) := by
    rw [data]
    exact Reader.run_of_complete _ _
  have reads : (∃ delta, Delta.reader 127 (.object members .closed) = .ok delta) ↔
      Noticeable members parts :=
    (Delta.lenient_record.exists_read_iff Delta.distinct_record).trans
      (Delta.accepts_iff_noticeable inside)
  rw [ofChars, if_pos labelled, List.drop_left, ofData, if_neg unmarked, whole]
  constructor
  · intro noticeable
    obtain ⟨delta, read⟩ := reads.2 noticeable
    obtain ⟨message, error⟩ := Delta.exists_message inside read
    rw [read]
    exact ⟨message, by simp only [ofDelta, error]⟩
  · intro unfit
    cases read : Delta.reader 127 (.object members .closed) with
    | error fault => rfl
    | ok delta => exact absurd (reads.1 ⟨delta, read⟩) unfit

/-- What stands before the first error of some lines stands before every error of them. -/
theorem prefix_of_sound {lines front back : List Line} {message : String}
    (start : lines <+: front ++ .failure message :: back)
    (sound : ∀ message, .failure message ∉ lines) : lines <+: front := by
  have whole : front ++ [.failure message] <+: front ++ .failure message :: back :=
    ⟨back, by simp⟩
  rcases List.prefix_or_prefix_of_prefix start whole with before | behind
  · rcases List.prefix_concat_iff.1 before with same | before
    · exact absurd (same ▸ List.mem_append_right _ (.head _)) (sound message)
    · exact before
  · exact absurd (behind.subset (List.mem_append_right _ (.head _))) (sound message)

end Line

namespace Story

variable {ending : Option StreamError} {known : Option Usage} {batches : List (List Line)}

/-- Batches that begin like lines with an error and no mark of the end before it tell an error, or
break off before it. -/
theorem error_or_sound {front back : List Line} {message : String}
    (start : batches.flatten <+: front ++ .failure message :: back) (goesOn : .done ∉ front) :
    (∃ message, (tell ending known batches).error = some (.remote message)) ∨
      (∀ message, .failure message ∉ batches.flatten) ∧
        (tell ending known batches).error = ending := by
  rcases Line.sound_or_failing batches.flatten with sound | ⟨first, other, rest, same, sound⟩
  · have before := Line.prefix_of_sound start sound
    have plain : .done ∉ batches.flatten := fun inside => goesOn (before.subset inside)
    exact .inr ⟨sound, by rw [tell_of_plain sound plain]⟩
  · have begins : first <+: batches.flatten := ⟨_, same.symm⟩
    have before := Line.prefix_of_sound (begins.trans start) sound
    have plain : .done ∉ first := fun inside => goesOn (before.subset inside)
    obtain ⟨-, error, -⟩ := @tell_of_error ending known _ _ _ _ same sound plain
    exact .inl ⟨other, error⟩

/-- Without an error among the lines none is told but that of the connection. -/
theorem error_of_sound (sound : ∀ message, .failure message ∉ batches.flatten) :
    (tell none known batches).error = none := by
  induction batches generalizing known with
  | nil => rfl
  | cons batch rest ih =>
      simp only [List.flatten_cons, List.mem_append, not_or] at sound
      rw [tell_cons fun message => (sound message).1, error_after]
      split
      · rfl
      · exact ih fun message => (sound message).2

end Story

namespace Stream

/-- Pulled to its end, the stream fails, and so does a session on it. -/
def Fails (stream : Stream) : Prop :=
  ∃ told message usage, stream.Tells ⟨told, some (.remote message), usage⟩ ∧
    stream.toScript.ending = .failed (.remote message)

/-- Pulled to its end, the stream ends without an error, and a session on it is complete. -/
def Completes (stream : Stream) : Prop :=
  ∃ told usage, stream.Tells ⟨told, none, usage⟩ ∧ stream.toScript.ending = .finished

variable {stream : Stream}

theorem fails_of_error {message : String} (error : stream.story.error = some (.remote message)) :
    stream.Fails := by
  refine ⟨stream.story.pieces, message, stream.story.usage, tells_iff.2 ?_, ?_⟩
  · rw [← error]
  · rw [stream.toScript_story.2, error]
    rfl

theorem completes_of_error (error : stream.story.error = none) : stream.Completes := by
  refine ⟨stream.story.pieces, stream.story.usage, tells_iff.2 ?_, ?_⟩
  · rw [← error]
  · rw [stream.toScript_story.2, error]
    rfl

/-- The lines that a stream brings are the first of its text, and all of them unless the connection
breaks. -/
theorem lines_begin_text {chunks : List (List UInt8)} {characters : List Char}
    (whole : chunks.flatten = encode characters) (broken : Bool) :
    ({ chunks, broken } : Stream).lines <+: Line.telling (joinLineEnds characters) ∧
      (broken = false →
        ({ chunks, broken } : Stream).lines = Line.telling (joinLineEnds characters)) := by
  obtain ⟨complete, left, text, lines, all, closed⟩ := @lines_spec { chunks, broken } rfl
  rw [@Feed.decode_of_encode {} _ _ whole] at text
  rw [lines, text]
  constructor
  · by_cases nothing : left = []
    · have same : complete ++ left = complete := by rw [nothing, List.append_nil]
      exact same.symm ▸ List.prefix_refl _
    · rw [closed nothing]
      exact List.prefix_append _ _
  · intro stays
    rw [all stays, List.append_nil]

section Whole

variable {characters : List Char} {chunks : List (List UInt8)}

/-- An error before any mark of the end makes the stream fail, whether or not it breaks. -/
theorem fails_of_failure (whole : chunks.flatten = encode characters) {front back : List Line}
    {message : String}
    (telling : Line.telling (joinLineEnds characters) = front ++ .failure message :: back)
    (goesOn : .done ∉ front) (broken : Bool) : ({ chunks, broken } : Stream).Fails := by
  obtain ⟨start, all⟩ := lines_begin_text whole broken
  have stories := @story_eq_tell { chunks, broken } rfl
  rw [telling] at start all
  rcases @Story.error_or_sound (Reading.ending broken) none _ _ _ _ start goesOn with
    ⟨other, error⟩ | ⟨sound, error⟩
  · exact fails_of_error (stories ▸ error)
  · cases broken with
    | true => exact fails_of_error (stories ▸ error)
    | false =>
        have inside : .failure message ∈ ({ chunks } : Stream).lines :=
          all rfl ▸ List.mem_append_right _ (.head _)
        exact absurd inside (sound message)

/-- A stream without an error that does not break is complete. -/
theorem completes_of_sound (whole : chunks.flatten = encode characters)
    (sound : ∀ message, .failure message ∉ Line.telling (joinLineEnds characters)) :
    ({ chunks } : Stream).Completes := by
  rw [← (lines_begin_text whole false).2 rfl] at sound
  have stories := @story_eq_tell { chunks } rfl
  exact completes_of_error (stories ▸ Story.error_of_sound sound)

end Whole

/-- An error object is noticed exactly if its line fits. Whatever else the stream brings, however
its bytes are cut, and whether or not the connection breaks, a line before any mark of the end with
an error object in it makes the stream fail if everything in the line fits. If not, the line is
passed over, and a stream without another error is complete. -/
theorem error_object_noticed {characters : List Char} {chunks : List (List UInt8)}
    (whole : chunks.flatten = encode characters) {front back : List (List Char)} {line : List Char}
    (lines : Line.splitFrom [] (joinLineEnds characters) = front ++ line :: back)
    (unmarked : .done ∉ front.map Line.ofChars) {members parts : List (Option String × Tree)}
    (carries : CarriesError line members parts) :
    (Noticeable members parts → ∀ broken, ({ chunks, broken } : Stream).Fails) ∧
      (¬ Noticeable members parts →
        (∀ message, .failure message ∉ (front ++ back).map Line.ofChars) →
        ({ chunks } : Stream).Completes) := by
  obtain ⟨noticed, skipped⟩ := Line.ofChars_of_carries carries
  have text : Line.ofText (joinLineEnds characters) =
      front.map Line.ofChars ++ Line.ofChars line :: back.map Line.ofChars := by
    rw [Line.ofText, lines, List.map_append, List.map_cons]
  constructor
  · intro noticeable
    obtain ⟨message, failure⟩ := noticed noticeable
    have telling : Line.telling (joinLineEnds characters) =
        (front.map Line.ofChars).filter (· ≠ .skipped) ++
          .failure message :: (back.map Line.ofChars).filter (· ≠ .skipped) := by
      simp [Line.telling, text, failure]
    exact fails_of_failure whole telling fun inside => unmarked (List.mem_filter.1 inside).1
  · intro unfit others
    refine completes_of_sound whole fun message inside => others message ?_
    rw [Line.telling, text, skipped unfit] at inside
    have somewhere := (List.mem_filter.1 inside).1
    simpa using somewhere

/-- A line with an error object, which has a member that no error needs, and no token counts. -/
def fittingLine : List Char :=
  "data: \x7b\"error\":\x7b\"code\":[],\"message\":\"boom\"\x7d,\"usage\":null\x7d".toList

/-- The bytes of that line in two chunks. -/
def fittingChunks : List (List UInt8) :=
  let bytes := encode (fittingLine ++ ['\n', '\n'])
  [bytes.take 20, bytes.drop 20]

/-- The error is noticed, though the cut goes through the line. -/
theorem error_object_noticed_in_fitting_line : ({ chunks := fittingChunks } : Stream).Fails := by
  have whole : fittingChunks.flatten = encode (fittingLine ++ ['\n', '\n']) := by
    simp [fittingChunks]
  have lines : Line.splitFrom [] (joinLineEnds (fittingLine ++ ['\n', '\n'])) =
      [] ++ fittingLine :: [[], []] := by decide +kernel
  have carries : CarriesError fittingLine
      [(some "error", .object [(some "code", .array [] .closed),
          (some "message", .string (some "boom"))] .closed),
        (some "usage", .null)]
      [(some "code", .array [] .closed), (some "message", .string (some "boom"))] :=
    ⟨⟨fittingLine.drop 5, rfl, rfl⟩, by simp⟩
  refine (error_object_noticed whole lines (by simp) carries).1 ?_ false
  exact {
    named := by simp
    once := by simp [Record.times]
    choices := by simp
    usage := by simp [Reader.option]
    partsNamed := by simp
    messageOnce := by simp [Record.times]
    message := ⟨"boom", by simp⟩ }

/-- A line with an error object and no choices. -/
def unfittingLine : List Char :=
  "data: \x7b\"choices\":null,\"error\":\x7b\"message\":\"boom\"\x7d\x7d".toList

/-- The error is passed over, since `null` is no list of choices. -/
theorem error_object_passed_over :
    CarriesError unfittingLine
        [(some "choices", .null),
          (some "error", .object [(some "message", .string (some "boom"))] .closed)]
        [(some "message", .string (some "boom"))] ∧
      Line.splitFrom [] (joinLineEnds (unfittingLine ++ ['\n', '\n'])) =
        [unfittingLine, [], []] ∧
      (({ chunks := [encode (unfittingLine ++ ['\n', '\n'])] } : Stream).pulls 1).1 =
        [.finished] ∧
      ¬ ({ chunks := [encode (unfittingLine ++ ['\n', '\n'])] } : Stream).Fails := by
  refine ⟨⟨⟨unfittingLine.drop 5, rfl, rfl⟩, by simp⟩, by decide +kernel, by decide +kernel, ?_⟩
  rintro ⟨told, message, usage, tells, -⟩
  have silent : ({ chunks := [encode (unfittingLine ++ ['\n', '\n'])] } : Stream).story.error =
      none := by decide +kernel
  rw [tells_iff.1 tells] at silent
  cases silent

end Stream

end TokenRelay.Chat
