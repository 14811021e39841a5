/-
# Decoding normalises

Supplies that an event that was decoded from any frame is decoded from its own frame too, so that a
frame which is decoded and encoded again stays as it is from then on. A frame may be written in many
ways, with blanks, escapes, other keys, keys in any order or none at all. Whatever it was, the
values in its data nest two levels less deep than the data, which nest one level less deep than the
frame, and this is what the writer puts around them again.
-/

import TokenRelay.Proofs.Event.RoundTrip
import TokenRelay.Proofs.Json.Contents

namespace TokenRelay

variable {holds : Number → Prop}

/-- What others supplied nests two levels less deep than the data it was read from. The reader of
the metadata starts anew there, so it is the data that set the limit and not how deep it goes. -/
theorem TurnMetadata.isMade_of_data {data : Json} (made : data.IsMade holds 126)
    {metadata : TurnMetadata} (read : reader 127 data.tree = .ok metadata) :
    ∀ value ∈ metadata.toolCalls ++ metadata.ragChunks, value.IsMade holds 124 := by
  refine forall_supplied_of_read read fun tree inside items found => ?_
  rw [data.parts_tree] at inside
  obtain ⟨part, there, rfl⟩ := List.mem_map.1 inside
  have partMade := made.part there
  have deeper : part.IsMade holds 126 :=
    { partMade with nesting_le := Nat.le_succ_of_le partMade.nesting_le }
  cases Reader.eq_array_of_list deeper found
  exact fun item within => partMade.part within

namespace Event

/-- The data of a frame nest one level less deep than the frame. -/
theorem RawFrame.isMade_data {units : List (Option Char)} {raw : RawFrame}
    (read : (RawFrame.record.reader false).run (Document.ofUnits units) = .ok raw) :
    raw.data.IsMade Number.IsDenoted 126 := by
  obtain ⟨_, find, ⟨⟩, built, below⟩ := Record.exists_build (Reader.of_run read)
  obtain ⟨_, _, second, -, rfl⟩ := Record.exists_of_build_and built
  obtain ⟨_, data, first, content, rfl⟩ := Record.exists_of_build_and second
  obtain ⟨_, _, made, -, rfl⟩ := Record.exists_of_build_and first
  cases made
  obtain ⟨tree, present, found⟩ := Record.exists_of_build_required content
  exact Reader.isMade_value tree
    (Tree.numbers_of_part (Document.denoted_ofUnits units) (below _ _ present)) found

/-- A record of two fields is put together from their contents. -/
theorem exists_of_pair {α β γ : Type} (make : α → β → γ) {first : Record α} {second : Record β}
    {source : Json} {value : γ}
    (read : ((((Record.pure make).and first).and second).reader false).ofJson source = .ok value) :
    ∃ one two, value = make one two := by
  obtain ⟨_, _, -, built, -⟩ := Record.exists_build (Reader.of_ofJson read)
  obtain ⟨_, two, rest, -, rfl⟩ := Record.exists_of_build_and built
  obtain ⟨_, one, made, -, rfl⟩ := Record.exists_of_build_and rest
  cases made
  exact ⟨one, two, rfl⟩

theorem ok_of_mapError {α : Type} {result : Except Fault α} {value : α}
    (same : result.mapError FrameError.json = .ok value) : result = .ok value := by
  cases result with
  | error fault => cases same
  | ok found =>
      cases same
      rfl

/-- What others supplied in an event nests two levels less deep than the data of its frame. -/
theorem isMade_of_ofRawFrame {raw : RawFrame} (made : raw.data.IsMade holds 126) {event : Event}
    (read : ofRawFrame raw = .ok event) : ∀ value ∈ event.supplied, value.IsMade holds 124 := by
  unfold ofRawFrame at read
  split at read
  · obtain ⟨_, _, rfl⟩ := exists_of_pair Event.start (ok_of_mapError read)
    exact List.forall_mem_nil _
  · obtain ⟨_, _, rfl⟩ := exists_of_pair Event.token (ok_of_mapError read)
    exact List.forall_mem_nil _
  · split at read
    · cases read
    · next metadata found =>
      cases read
      exact metadata.isMade_of_data made (Reader.of_ofJson found)
  · cases read

/-- Whatever frame an event is decoded from, what others supplied in it fits into a frame. -/
theorem isMade_of_decode {frame : String} {event : Event} (read : decode frame = .ok event) :
    ∀ value ∈ event.supplied, value.IsMade Number.IsDenoted 124 := by
  unfold decode decodeChars at read
  split at read
  · cases read
  · split at read
    · cases read
    · split at read
      · cases read
      · next raw found => exact isMade_of_ofRawFrame (RawFrame.isMade_data found) read

/-- An event that was decoded from any frame is decoded from its own frame as well, if the
floating-point numbers in it read back from their texts; so encoding what is decoded from an encoded
event changes nothing. -/
theorem decode_encode_of_decode {frame : String} {event : Event}
    (read : decode frame = .ok event) (floats : event.FloatsReadBack) :
    decode event.encode = .ok event ∧ (decode event.encode).map encode = .ok event.encode := by
  have made := isMade_of_decode read
  have proper : event.Proper :=
    fun value inside => (made value inside).proper (floats value inside)
  have shallow : event.Shallow := fun value inside => (made value inside).nesting_le
  have decoded : decode event.encode = .ok event := by
    rw [proper.decode_frame, if_pos shallow, proper.reread_eq_self_iff.2 floats]
    rfl
  exact ⟨decoded, by rw [decoded]; rfl⟩

/-- A frame with blanks and an escape, its members in another order and one more, its data as an
array that ends early, a key given twice, and a number with a zero too many. -/
def loose : String :=
  "data: \x7b \"x\":[0],\"data\":[[],[\x7b\"b\":2,\"a\":0,\"\\u0061\":1.50\x7d] ]," ++
    "\"event\":\"end\"\x7d\n\n"

/-- The frame of the same event. -/
def strict : String :=
  "data: \x7b\"event\":\"end\",\"data\":\x7b\"referenced_documents\":[]," ++
    "\"tool_calls\":[\x7b\"a\":1.5,\"b\":2\x7d]\x7d,\"available_quotas\":\x7b\x7d\x7d\n\n"

theorem loose_normalises :
    ∃ event, decode loose = .ok event ∧ event.FloatsReadBack ∧ event.encode = strict ∧
      decode strict = .ok event ∧ (decode strict).map encode = .ok strict := by
  have known : (decode loose).toOption.any (fun event =>
      decide (event.encode = strict) &&
        event.supplied.all fun value => value.numbers.all Number.isPlain) = true := by
    decide +kernel
  cases read : decode loose with
  | error fault =>
      rw [read] at known
      cases known
  | ok event =>
      simp only [read, Except.toOption, Option.any_some, Bool.and_eq_true, decide_eq_true_eq]
        at known
      obtain ⟨written, numbers⟩ := known
      have floats : event.FloatsReadBack := Json.floatsReadBack_of_plain numbers
      obtain ⟨again, fixed⟩ := decode_encode_of_decode read floats
      rw [written] at again fixed
      exact ⟨event, rfl, floats, written, again, fixed⟩

end Event

end TokenRelay
