/-
# Bodies of frames

Supplies that frames never run into each other. A frame has one pair of newlines, at its end, so a
body is cut into the frames and the blank chunks that it was put together from, and what is read of
it is what is read of the frames one by one.
-/

import TokenRelay.Proofs.Event.RoundTrip
import TokenRelay.Proofs.Json.Printable

namespace TokenRelay

namespace Event

/-- A frame is a label, one line of JSON, and the only pair of newlines in it. -/
structure Framed (event : Event) : Prop where
  layout : event.encode = "data: " ++ event.toJson.compact ++ "\n\n"
  printable : Printable event.toJson.compact.toList
  /-- The line is one value and nothing else to its reader. -/
  json : Document.ofText event.toJson.compact = ⟨event.toJson.treeWith Number.reread, false⟩
  last : ∀ before after, event.encode.toList = before ++ terminator ++ after → after = []

/-- An event that is recovered from its frame. -/
structure Recoverable (event : Event) : Prop where
  proper : event.Proper
  shallow : event.Shallow
  floats : event.FloatsReadBack

/-- The text of a part of a body: a frame, or a blank chunk. -/
def partText : Option Event → String
  | none => String.ofList terminator
  | some event => event.encode

/-- A body: frames with blank chunks between them. -/
def body (parts : List (Option Event)) : String := String.join (parts.map partText)

/-- The events of a body. -/
def events (parts : List (Option Event)) : List Event := parts.filterMap id

/-- What stands in front of the newlines of a part. -/
def line : Option Event → List Char
  | none => []
  | some event => label ++ event.toJson.compact.toList

theorem newline_notMem_line (part : Option Event) : '\n' ∉ line part := by
  cases part with
  | none => exact List.not_mem_nil
  | some event =>
      have printable : Printable label := by decide
      exact (printable.append event.toJson.printable_compact).newline_notMem

theorem toList_partText (part : Option Event) :
    (partText part).toList = line part ++ terminator := by
  cases part with
  | none => exact String.toList_ofList
  | some event => rw [partText, toList_encode, line, List.append_assoc]

theorem toList_body (parts : List (Option Event)) :
    (body parts).toList = (parts.map fun part => line part ++ terminator).flatten := by
  simp [body, toList_partText, Function.comp_def, List.flatMap_def]

/-- A pair of newlines behind a line ends a chunk. -/
theorem chunksFrom_line {line : List Char} (single : '\n' ∉ line) (chunks : List (List Char))
    (chunk rest : List Char) :
    chunksFrom chunks chunk (line ++ terminator ++ rest) =
      chunksFrom ((chunk.reverse ++ line ++ terminator) :: chunks) [] rest := by
  induction line generalizing chunk with
  | nil => simp [terminator, chunksFrom]
  | cons character line ih =>
      rw [List.mem_cons, not_or] at single
      have next := ih single.2 (character :: chunk)
      have goesOn (rest : List Char) : chunksFrom chunks chunk (character :: rest) =
          chunksFrom chunks (character :: chunk) rest := by
        rw [chunksFrom]
        rintro _ rfl
        exact absurd rfl single.1
      rw [List.cons_append, List.cons_append, goesOn, next]
      simp

/-- Parts are cut off one after the other. -/
theorem chunksFrom_parts (parts : List (Option Event)) (chunks : List (List Char)) :
    chunksFrom chunks [] (parts.map fun part => line part ++ terminator).flatten =
      chunks.reverse ++ parts.map fun part => line part ++ terminator := by
  induction parts generalizing chunks with
  | nil => simp [chunksFrom]
  | cons part parts ih =>
      rw [List.map_cons, List.flatten_cons, chunksFrom_line (newline_notMem_line part), ih]
      simp

/-- A body is cut into its parts. -/
theorem chunks_body (parts : List (Option Event)) :
    chunks (body parts).toList = parts.map fun part => line part ++ terminator := by
  rw [chunks, toList_body, chunksFrom_parts, List.reverse_nil, List.nil_append]

/-- A frame is not blank: its label is not. -/
theorem isBlank_part (part : Option Event) :
    (line part ++ terminator).all Text.isBlank = part.isNone := by
  cases part with
  | none => decide
  | some event =>
      have visible : Text.isBlank 'd' = false := by decide
      simp [line, label, visible]

/-- The chunks of a body that are not blank are the frames of its events. -/
theorem filter_chunks_body (parts : List (Option Event)) :
    ((chunks (body parts).toList).filter fun chunk => !chunk.all Text.isBlank) =
      ((events parts).map encode).map String.toList := by
  rw [chunks_body]
  induction parts with
  | nil => rfl
  | cons part parts ih =>
      rw [List.map_cons, List.filter_cons, isBlank_part, ih]
      cases part with
      | none => simp [events]
      | some event => simp [events, ← toList_partText, partText]

/-- Blank chunks are passed over, and a frame is read behind the events before it. -/
theorem decodeChunks_parts (parts : List (Option Event)) (earlier : List Event) :
    decodeChunks earlier (parts.map fun part => line part ++ terminator) =
      ((events parts).mapM fun event => decode event.encode).map (earlier.reverse ++ ·) := by
  induction parts generalizing earlier with
  | nil => simp [decodeChunks, events, pure, Except.pure, Except.map]
  | cons part parts ih =>
      rw [List.map_cons, decodeChunks, isBlank_part]
      cases part with
      | none => exact ih earlier
      | some event =>
          have frame : decodeChars (line (some event) ++ terminator) = decode event.encode := by
            rw [decode, ← toList_partText, partText]
          have first : events (some event :: parts) = event :: events parts := rfl
          simp only [Option.isNone_some, Bool.false_eq_true, if_false, frame, first,
            List.mapM_cons]
          cases decode event.encode with
          | error fault => rfl
          | ok event =>
              simp only [ih (event :: earlier)]
              cases (events parts).mapM fun event => decode event.encode <;>
                simp [bind, Except.bind, pure, Except.pure, Except.map]

/-- The events of a body are read one by one, up to the first that cannot be read. -/
theorem decodeAll_body (parts : List (Option Event)) :
    decodeAll (body parts) = (events parts).mapM fun event => decode event.encode := by
  rw [decodeAll, chunks_body, decodeChunks_parts]
  cases (events parts).mapM fun event => decode event.encode <;> rfl

/-- A list is read as it was if everything in it is. -/
theorem mapM_eq_ok_iff {read : Event → Except FrameError Event} (events : List Event) :
    events.mapM read = .ok events ↔ ∀ event ∈ events, read event = .ok event := by
  induction events with
  | nil => simp [pure, Except.pure]
  | cons event rest ih =>
      rw [List.forall_mem_cons, ← ih, List.mapM_cons]
      cases read event with
      | error fault => simp [bind, Except.bind]
      | ok value =>
          cases rest.mapM read <;> simp [bind, Except.bind, pure, Except.pure]

/-- An event that readers get to the bottom of is recovered exactly if its numbers are. -/
theorem Proper.recovered_iff {event : Event} (proper : event.Proper)
    (shallow : event.Shallow) : decode event.encode = .ok event ↔ event.FloatsReadBack := by
  rw [proper.decode_frame, if_pos shallow, ← proper.reread_eq_self_iff]
  cases event.reread <;> simp [Event.recovered]

theorem decodeAll_body_eq_iff {parts : List (Option Event)}
    (proper : ∀ event ∈ events parts, event.Proper)
    (shallow : ∀ event ∈ events parts, event.Shallow) :
    decodeAll (body parts) = .ok (events parts) ↔
      ∀ event ∈ events parts, event.FloatsReadBack := by
  rw [decodeAll_body, mapM_eq_ok_iff]
  exact forall₂_congr fun event inside =>
    (proper event inside).recovered_iff (shallow event inside)

/-- The only pair of newlines behind a line is the one that ends it. -/
theorem eq_nil_of_line_append {line before after : List Char} (single : '\n' ∉ line)
    (same : line ++ terminator = before ++ terminator ++ after) : after = [] := by
  induction line generalizing before with
  | nil =>
      have lengths := congrArg List.length same
      simp only [terminator, List.length_append, List.length_cons, List.length_nil] at lengths
      exact List.eq_nil_of_length_eq_zero (by omega)
  | cons character line ih =>
      rw [List.mem_cons, not_or] at single
      cases before with
      | nil => exact absurd (List.cons.inj same).1.symm single.1
      | cons other before => exact ih single.2 (List.cons.inj same).2

theorem Proper.framed {event : Event} (proper : event.Proper) : event.Framed where
  layout := rfl
  printable := event.toJson.printable_compact
  json := Document.ofText_compact _ proper.numbers
  last before after same := by
    have written : event.encode.toList = line (some event) ++ terminator :=
      toList_partText (some event)
    exact eq_nil_of_line_append (newline_notMem_line (some event)) (written ▸ same)

theorem decodeAll_body_of_recoverable {parts : List (Option Event)}
    (recoverable : ∀ event ∈ events parts, event.Recoverable) :
    decodeAll (body parts) = .ok (events parts) :=
  (decodeAll_body_eq_iff (fun event inside => (recoverable event inside).proper)
    fun event inside => (recoverable event inside).shallow).2
      fun event inside => (recoverable event inside).floats

/-- Frames never run into each other. Each is one line; a body determines its frames; and it is read
as the events it was put together from exactly if the floating-point numbers in them read back, in
which case it determines the events as well. -/
theorem frames_stay_apart {parts : List (Option Event)}
    (proper : ∀ event ∈ events parts, event.Proper) :
    (∀ event ∈ events parts, event.Framed) ∧
    (∀ parts', body parts = body parts' →
      (events parts).map encode = (events parts').map encode) ∧
    ((∀ event ∈ events parts, event.Shallow) →
      (decodeAll (body parts) = .ok (events parts) ↔
        ∀ event ∈ events parts, event.FloatsReadBack)) ∧
    ∀ parts', (∀ event ∈ events parts ++ events parts', event.Recoverable) →
      body parts = body parts' → events parts = events parts' := by
  refine ⟨fun event inside => (proper event inside).framed, fun parts' same => ?_,
    decodeAll_body_eq_iff proper, fun parts' recoverable same => ?_⟩
  · have frames := filter_chunks_body parts
    rw [same, filter_chunks_body] at frames
    exact (List.map_inj_right fun _ _ => String.toList_inj.1).1 frames.symm
  · rw [List.forall_mem_append] at recoverable
    have read := decodeAll_body_of_recoverable recoverable.1
    rw [same, decodeAll_body_of_recoverable recoverable.2] at read
    exact (Except.ok.inj read).symm

/-- A turn, with blank chunks between its frames. -/
def turn : List (Option Event) :=
  [some (.start "c" "r"), none, some (.token 0 "one\n\ntwo"), none, none, some calculated]

theorem frames_stay_apart_turn :
    (∀ event ∈ events turn, event.Recoverable) ∧ calculated.Framed ∧
      decodeAll (body turn) = .ok (events turn) ∧
      ∀ parts, (∀ event ∈ events parts, event.Recoverable) →
        body turn = body parts → events turn = events parts := by
  have recoverable : ∀ event ∈ events turn, event.Recoverable := by
    intro event inside
    have kinds : event = .start "c" "r" ∨ event = .token 0 "one\n\ntwo" ∨ event = calculated := by
      simpa [events, turn] using inside
    rcases kinds with rfl | rfl | rfl
    · exact ⟨List.forall_mem_nil _, List.forall_mem_nil _, List.forall_mem_nil _⟩
    · exact ⟨List.forall_mem_nil _, List.forall_mem_nil _, List.forall_mem_nil _⟩
    · exact ⟨proper_calculated, by decide, floatsReadBack_calculated⟩
  obtain ⟨framed, -, recovered, determined⟩ :=
    frames_stay_apart fun event inside => (recoverable event inside).proper
  refine ⟨recoverable, framed calculated ?_, ?_, fun parts recoverable' => ?_⟩
  · simp [events, turn]
  · exact (recovered fun event inside => (recoverable event inside).shallow).2
      fun event inside => (recoverable event inside).floats
  · exact determined parts (List.forall_mem_append.2 ⟨recoverable, recoverable'⟩)

/-- The end of a turn with a number whose text is read as the number below it. -/
def imprecise : Event :=
  .finish { toolCalls := [.number (.float 97.45365320034685)] } .empty

/-- The digits of the text are rounded as a whole number, and once more when that is divided by a
power of ten. -/
theorem reread_imprecise :
    imprecise.reread =
      some (.finish { toolCalls := [.number (.float 97.45365320034684)] } .empty) := by
  have written : (Number.float 97.45365320034685).text = "97.45365320034685" := by decide +kernel
  have read : Token.numeral? "97.45365320034685".toList =
    some ⟨false, [7, 9], some [5, 8, 6, 4, 3, 0, 0, 2, 3, 5, 6, 3, 5, 4], none⟩ := rfl
  have value : Number.scaled 9745365320034685 (-14) = some 97.45365320034684 := by decide +kernel
  have changed : (Number.float 97.45365320034685).reread = some (.float 97.45365320034684) := by
    rw [Number.reread, written, read, Option.bind_some]
    simp [Number.ofNumeral?, Number.takeDigits, value, UInt64.size, Number.signed]
  simp [reread, imprecise, TurnMetadata.renumber, Json.renumberItems, Json.renumber, changed]

theorem decodeAll_body_imprecise :
    imprecise.Proper ∧ imprecise.Shallow ∧
      decodeAll (body [some imprecise]) =
        .ok [.finish { toolCalls := [.number (.float 97.45365320034684)] } .empty] ∧
      decodeAll (body [some imprecise]) ≠ .ok [imprecise] := by
  have proper : imprecise.Proper := by
    intro value inside
    cases List.mem_singleton.1 inside
    have finite : (Number.float 97.45365320034685).Proper := ⟨rfl, rfl⟩
    exact ⟨trivial, fun number within => List.mem_singleton.1 within ▸ finite⟩
  have shallow : imprecise.Shallow := by decide
  have decoded : decodeAll (body [some imprecise]) =
      .ok [.finish { toolCalls := [.number (.float 97.45365320034684)] } .empty] := by
    have frame := proper.decode_frame
    rw [if_pos shallow, reread_imprecise] at frame
    simp [decodeAll_body, events, frame, Event.recovered, bind, Except.bind, pure, Except.pure]
  refine ⟨proper, shallow, decoded, ?_⟩
  have other : (97.45365320034684 : Float) ≠ 97.45365320034685 := by decide +kernel
  rw [decoded]
  simp [imprecise, other]

end Event

end TokenRelay
