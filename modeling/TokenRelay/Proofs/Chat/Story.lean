/-
# The story of a chat stream

Supplies what a chat stream tells whoever pulls it: pieces, then the end or an error, and the token
counts that are known then. The story depends on the lines alone and on how they come in batches:
one batch for each chunk, of the events that the chunk completes, and one for what is left when the
stream ends. A batch is taken in whole before any of its pieces is pulled, so its pieces wait while
the rest of it is read, and its first error is told instead of them.
-/

import TokenRelay.Proofs.Chat.Lines
import TokenRelay.Proofs.Session.Ideal

namespace TokenRelay.Chat

/-- What a stream tells: pieces, then the end or an error, and the token counts known then. -/
@[ext]
structure Story where
  pieces : List String
  error : Option StreamError
  usage : Option Usage
  deriving DecidableEq

namespace Story

/-- The story with some pieces told first. -/
def after (pieces : List String) (story : Story) : Story :=
  { story with pieces := pieces ++ story.pieces }

/-- What is told behind the pieces. -/
def closing (story : Story) : Pulled :=
  match story.error with
  | none => .finished
  | some error => .failed error

/-- What is known about the turn at the end of the story. -/
def metadata (story : Story) : TurnMetadata :=
  ({ usage := story.usage } : Reading).metadata

@[simp]
theorem metadata_mk (pieces : List String) (error : Option StreamError) (reading : Reading) :
    (⟨pieces, error, reading.usage⟩ : Story).metadata = reading.metadata := rfl

@[simp]
theorem pieces_after (pieces : List String) (story : Story) :
    (story.after pieces).pieces = pieces ++ story.pieces := rfl

@[simp]
theorem error_after (pieces : List String) (story : Story) :
    (story.after pieces).error = story.error := rfl

@[simp]
theorem metadata_after (pieces : List String) (story : Story) :
    (story.after pieces).metadata = story.metadata := rfl

theorem closing_ne_fragment (story : Story) (text : String) : story.closing ≠ .fragment text := by
  unfold closing
  split <;> nofun

/-- Stories differ in their pieces, in what is told behind them or in what is known then. -/
theorem ext_closing {first second : Story} (pieces : first.pieces = second.pieces)
    (closing : first.closing = second.closing) (metadata : first.metadata = second.metadata) :
    first = second := by
  obtain ⟨_, error, usage⟩ := first
  obtain ⟨_, error', usage'⟩ := second
  obtain rfl : error = error' := by
    cases error <;> cases error' <;> simp_all [Story.closing]
  obtain rfl : usage = usage' := by
    rcases usage with - | ⟨_, _⟩ <;> rcases usage' with - | ⟨_, _⟩ <;>
      simp_all [Story.metadata, Reading.metadata]
  cases pieces
  rfl

theorem after_after (first second : List String) (story : Story) :
    (story.after second).after first = story.after (first ++ second) := by
  simp [after]

/-- What batches of lines tell if nothing in them ends the story. The first batch with an error
tells nothing else, and the first one with the mark of the end is the last. -/
def tell (ending : Option StreamError) (known : Option Usage) : List (List Line) → Story
  | [] => ⟨[], ending, known⟩
  | batch :: rest =>
    let usage := Line.lastUsage known (Line.upToError batch).1
    match (Line.upToError batch).2 with
    | some message => ⟨[], some (.remote message), usage⟩
    | none =>
      (if .done ∈ batch then ⟨[], none, usage⟩ else tell ending usage rest).after
        (batch.flatMap Line.pieces)

end Story

/-- The lines that the chunks complete, one batch for each chunk, and those that are left when the
stream ends. If the connection breaks, what is left is lost. -/
def batchesFrom (broken : Bool) (feed : Feed) (buffer : List Char) :
    List (List UInt8) → List (List Line)
  | [] => if broken then [] else [Line.telling (buffer ++ feed.flush)]
  | chunk :: rest =>
    let pushed := feed.push chunk
    let cut := Reading.cutFrom [] (buffer ++ pushed.1)
    cut.1.flatMap Line.telling :: batchesFrom broken pushed.2 cut.2 rest

namespace Reading

variable {reading after : Reading} {chunk : List UInt8} {rest : List (List UInt8)}
  {message : String} {broken : Bool}

/-- How a story ends that no line ends. -/
def ending (broken : Bool) : Option StreamError :=
  if broken then some Stream.brokenError else none

/-- What a reading and the chunks to come tell, the pieces that wait first. -/
def story (broken : Bool) (reading : Reading) (chunks : List (List UInt8)) : Story :=
  (if reading.done then ⟨[], none, reading.usage⟩
    else Story.tell (ending broken) reading.usage
      (batchesFrom broken reading.feed reading.buffer chunks)).after reading.pending

theorem story_of_done (done : reading.done = true) (chunks : List (List UInt8)) :
    reading.story broken chunks = ⟨reading.pending, none, reading.usage⟩ := by
  simp [story, Story.after, done]

/-- The pieces that wait have no part in the rest of the story. -/
theorem story_emptied (reading : Reading) (chunks : List (List UInt8)) :
    reading.story broken chunks =
      ({ reading with pending := [] }.story broken chunks).after reading.pending := rfl

/-- A chunk brings the lines of the events that it completes. -/
theorem receive_eq (reading : Reading) (chunk : List UInt8) {pushed : List Char × Feed}
    {cut : List (List Char) × List Char} (push : reading.feed.push chunk = pushed)
    (cuts : cutFrom [] (reading.buffer ++ pushed.1) = cut) :
    ∃ buffer,
      reading.receive chunk =
        ({ reading.after (Line.upToError (cut.1.flatMap Line.telling)).1 with
            feed := pushed.2, buffer },
          (Line.upToError (cut.1.flatMap Line.telling)).2) ∧
      ((Line.upToError (cut.1.flatMap Line.telling)).2 = none → buffer = cut.2) := by
  subst push cuts
  exact absorbEvents_eq { reading with feed := _ } _ _

/-- The end of the stream brings the lines of what is left. -/
theorem finish_eq (reading : Reading) {lines : List Line}
    (left : Line.telling (reading.buffer ++ reading.feed.flush) = lines) :
    ∃ after, reading.finish = (after, (Line.upToError lines).2) ∧
      after.pending = reading.pending ++ (Line.upToError lines).1.flatMap Line.pieces ∧
      after.usage = Line.lastUsage reading.usage (Line.upToError lines).1 ∧
      ((Line.upToError lines).2 = none → after.done = true) := by
  have taken := absorb_eq { reading with feed := {}, buffer := [] }
    (Line.ofText (reading.buffer ++ reading.feed.flush))
  rw [show (Line.ofText (reading.buffer ++ reading.feed.flush)).filter (· ≠ .skipped) = lines
    from left] at taken
  unfold finish
  simp only [taken]
  cases (Line.upToError lines).2 with
  | none => exact ⟨_, rfl, rfl, rfl, fun _ => rfl⟩
  | some message => exact ⟨_, rfl, rfl, rfl, nofun⟩

/-- A chunk without an error does not change the story. -/
theorem story_of_receive (goesOn : reading.done = false)
    (received : reading.receive chunk = (after, none)) :
    reading.story broken (chunk :: rest) = after.story broken rest := by
  obtain ⟨buffer, taken, left⟩ := reading.receive_eq chunk rfl rfl
  obtain ⟨rfl, error⟩ := Prod.mk.inj (taken.symm.trans received)
  obtain rfl := left error
  have sound := Line.upToError_sound (Line.sound_of_upToError error)
  simp [story, batchesFrom, Story.tell, Story.after_after, Reading.after, goesOn, sound]

/-- A chunk with an error tells it at once. -/
theorem story_of_receive_error (goesOn : reading.done = false)
    (received : reading.receive chunk = (after, some message)) :
    reading.story broken (chunk :: rest) =
      ⟨reading.pending, some (.remote message), after.usage⟩ := by
  obtain ⟨buffer, taken, -⟩ := reading.receive_eq chunk rfl rfl
  obtain ⟨rfl, error⟩ := Prod.mk.inj (taken.symm.trans received)
  simp [story, batchesFrom, Story.tell, Story.after, Reading.after, goesOn, error]

/-- What is left when the stream ends does not change the story, unless it has an error. -/
theorem story_of_finish (goesOn : reading.done = false)
    (finished : reading.finish = (after, none)) :
    after.done = true ∧ reading.story false [] = ⟨after.pending, none, after.usage⟩ := by
  obtain ⟨_, taken, pending, usage, done⟩ := reading.finish_eq rfl
  obtain ⟨rfl, error⟩ := Prod.mk.inj (taken.symm.trans finished)
  have sound := Line.upToError_sound (Line.sound_of_upToError error)
  rw [pending, usage]
  refine ⟨done error, ?_⟩
  simp [story, batchesFrom, Story.tell, Story.after, ending, goesOn, sound]

theorem story_of_finish_error (goesOn : reading.done = false)
    (finished : reading.finish = (after, some message)) :
    reading.story false [] = ⟨reading.pending, some (.remote message), after.usage⟩ := by
  obtain ⟨_, taken, -, usage, -⟩ := reading.finish_eq rfl
  obtain ⟨rfl, error⟩ := Prod.mk.inj (taken.symm.trans finished)
  rw [usage]
  simp [story, batchesFrom, Story.tell, Story.after, goesOn, error]

/-- A connection that breaks tells of it. -/
theorem story_of_broken (goesOn : reading.done = false) :
    reading.story true [] = ⟨reading.pending, some Stream.brokenError, reading.usage⟩ := by
  simp [story, batchesFrom, Story.tell, Story.after, ending, goesOn]

end Reading

namespace Stream

/-- What a stream tells. -/
def story (stream : Stream) : Story :=
  stream.reading.story stream.broken stream.chunks

/-- What a pull gives of a story: its next piece, or what is told behind the pieces. Behind the end
there is nothing but the end. -/
def Follows (story : Story) (pulled : Pulled × Stream) : Prop :=
  match story.pieces with
  | piece :: rest =>
    pulled.1 = .fragment piece ∧ pulled.2.story = { story with pieces := rest }
  | [] =>
    pulled.1 = story.closing ∧ pulled.2.reading.usage = story.usage ∧
      (story.error = none → pulled.2.story = story)

theorem pending_of_handOut_eq_none {stream : Stream} (waits : stream.handOut = none) :
    stream.reading.pending = [] ∧ stream.reading.done = false := by
  unfold handOut at waits
  split at waits
  · cases waits
  · next pending =>
    split at waits
    · cases waits
    · next goesOn => exact ⟨pending, by simpa using goesOn⟩

theorem follows_handOut {stream : Stream} {result : Pulled × Stream}
    (handed : stream.handOut = some result) : Follows stream.story result := by
  unfold handOut at handed
  split at handed
  · next piece rest pending =>
    cases handed
    simp [Follows, story, Reading.story, Story.after, pending]
  · next pending =>
    split at handed
    · next done =>
      cases handed
      rw [story, Reading.story_of_done done, pending]
      exact ⟨rfl, rfl, fun _ => by rw [story, Reading.story_of_done done, pending]⟩
    · cases handed

/-- Every pull follows the story. The induction is on the chunks, and one that completes no piece
leaves the story to the next. -/
theorem follows_pullFrom (broken : Bool) (reading : Reading) (chunks : List (List UInt8)) :
    Follows (reading.story broken chunks) (pullFrom broken reading chunks) := by
  induction chunks generalizing reading with
  | nil =>
      rw [pullFrom]
      cases handed : handOut ⟨reading, [], broken⟩ with
      | some result => exact follows_handOut handed
      | none =>
          obtain ⟨pending, goesOn⟩ := pending_of_handOut_eq_none handed
          simp only at pending goesOn
          cases broken with
          | true =>
              rw [Reading.story_of_broken goesOn, pending]
              exact ⟨rfl, rfl, nofun⟩
          | false =>
              simp only [Bool.false_eq_true, if_false]
              split
              · next after message finished =>
                rw [Reading.story_of_finish_error goesOn finished, pending]
                exact ⟨rfl, rfl, nofun⟩
              · next after finished =>
                obtain ⟨done, same⟩ := Reading.story_of_finish goesOn finished
                rw [same, ← @Reading.story_of_done after false done []]
                cases handed : handOut ⟨after, [], false⟩ with
                | some result => exact follows_handOut handed
                | none =>
                    obtain ⟨-, goesOn⟩ := pending_of_handOut_eq_none handed
                    exact absurd (goesOn.symm.trans done) Bool.false_ne_true
  | cons chunk rest ih =>
      rw [pullFrom]
      cases handed : handOut ⟨reading, chunk :: rest, broken⟩ with
      | some result => exact follows_handOut handed
      | none =>
          obtain ⟨pending, goesOn⟩ := pending_of_handOut_eq_none handed
          simp only at pending goesOn ⊢
          split
          · next after message received =>
            rw [Reading.story_of_receive_error goesOn received, pending]
            exact ⟨rfl, rfl, nofun⟩
          · next after received =>
            rw [Reading.story_of_receive goesOn received]
            exact ih after

theorem follows_pull (stream : Stream) : Follows stream.story stream.pull :=
  follows_pullFrom _ _ _

/-- A session on the stream is told the same. -/
theorem stepsFrom_eq (broken : Bool) (reading : Reading) (chunks : List (List UInt8)) :
    stepsFrom broken reading chunks =
      ((reading.story broken chunks).pieces.map .fragment ++
          (reading.story broken chunks).error.toList.map .fail,
        (reading.story broken chunks).metadata) := by
  induction chunks generalizing reading with
  | nil =>
      rw [stepsFrom]
      by_cases done : reading.done = true
      · rw [Reading.story_of_done done, if_pos done]
        simp
      · have goesOn : ({ reading with pending := [] } : Reading).done = false := by simpa using done
        rw [Reading.story_emptied, if_neg done]
        cases broken with
        | true =>
            rw [Reading.story_of_broken goesOn]
            simp
        | false =>
            simp only [Bool.false_eq_true, if_false]
            split
            · next after message finished =>
              rw [Reading.story_of_finish_error goesOn finished]
              simp
            · next after finished =>
              rw [(Reading.story_of_finish goesOn finished).2]
              simp
  | cons chunk rest ih =>
      rw [stepsFrom]
      by_cases done : reading.done = true
      · rw [Reading.story_of_done done, if_pos done]
        simp
      · have goesOn : ({ reading with pending := [] } : Reading).done = false := by simpa using done
        rw [Reading.story_emptied, if_neg done]
        simp only
        split
        · next after message received =>
          rw [Reading.story_of_receive_error goesOn received]
          simp
        · next after received =>
          rw [Reading.story_of_receive goesOn received, ih after]
          simp

/-- The stream as a script has the pieces of the story as its fragments, and ends like it. -/
theorem toScript_story (stream : Stream) :
    stream.toScript.fragments = stream.story.pieces ∧
      stream.toScript.ending = stream.story.error.elim .finished .failed := by
  have spoken (pieces : List String) (steps : List Step) :
      Script.fragmentsOf (pieces.map (fun text => ⟨.fragment text, 0⟩) ++ steps) =
          pieces ++ Script.fragmentsOf steps ∧
        Script.endingOf false (pieces.map (fun text => ⟨.fragment text, 0⟩) ++ steps) =
          Script.endingOf false steps := by
    induction pieces with
    | nil => exact ⟨rfl, rfl⟩
    | cons piece pieces ih => exact ⟨congrArg (piece :: ·) ih.1, ih.2⟩
  simp only [Script.fragments, Script.ending, toScript, stepsFrom_eq, List.map_append,
    List.map_map, Function.comp_def]
  rw [(spoken _ _).1, (spoken _ _).2]
  simp only [story]
  cases (stream.reading.story stream.broken stream.chunks).error with
  | none => exact ⟨List.append_nil _, rfl⟩
  | some error => exact ⟨List.append_nil _, rfl⟩

/-- The results of some pulls, one after the other, and the stream behind them. -/
def pulls (stream : Stream) : Nat → List Pulled × Stream
  | 0 => ([], stream)
  | count + 1 =>
    let (result, after) := stream.pull
    let (results, last) := after.pulls count
    (result :: results, last)

theorem pull_of_pieces {stream : Stream} {story : Story} {piece : String} {rest : List String}
    (tells : stream.story = story) (pieces : story.pieces = piece :: rest) :
    stream.pull.1 = .fragment piece ∧ stream.pull.2.story = { story with pieces := rest } := by
  have follows := tells ▸ stream.follows_pull
  unfold Follows at follows
  rwa [pieces] at follows

theorem pull_of_no_pieces {stream : Stream} {story : Story}
    (tells : stream.story = story) (pieces : story.pieces = []) :
    stream.pull.1 = story.closing ∧ stream.pull.2.reading.usage = story.usage ∧
      (story.error = none → stream.pull.2.story = story) := by
  have follows := tells ▸ stream.follows_pull
  unfold Follows at follows
  rwa [pieces] at follows

/-- A stream whose story ends without an error hands out the pieces, and then the end as often as
it is asked. -/
theorem pulls_of_end {stream : Stream} {pieces : List String} {usage : Option Usage}
    (tells : stream.story = ⟨pieces, none, usage⟩) (extra : Nat) :
    (stream.pulls (pieces.length + extra)).1 =
        pieces.map .fragment ++ List.replicate extra .finished ∧
      (0 < extra → (stream.pulls (pieces.length + extra)).2.reading.usage = usage) := by
  induction pieces generalizing stream with
  | nil =>
      rw [List.length_nil, Nat.zero_add]
      induction extra generalizing stream with
      | zero => exact ⟨rfl, fun some => absurd some (Nat.lt_irrefl 0)⟩
      | succ extra ih =>
          obtain ⟨finished, known, again⟩ := pull_of_no_pieces tells rfl
          obtain ⟨results, later⟩ := ih (again rfl)
          simp only [pulls, finished, results]
          refine ⟨rfl, fun _ => ?_⟩
          cases extra with
          | zero => exact known
          | succ extra => exact later (Nat.succ_pos extra)
  | cons piece rest ih =>
      obtain ⟨handed, onward⟩ := pull_of_pieces tells rfl
      obtain ⟨results, known⟩ := ih onward
      rw [List.length_cons, Nat.add_right_comm]
      simp only [pulls, handed, results]
      exact ⟨rfl, known⟩

/-- Pulled up to its end or its first error, the stream gives the pieces of a story and what is
behind them, and then the token counts of the story are known. -/
def Tells (stream : Stream) (story : Story) : Prop :=
  ∃ last, stream.pulls (story.pieces.length + 1) =
      (story.pieces.map .fragment ++ [story.closing], last) ∧
    last.reading.metadata = story.metadata

theorem tells_cons {stream : Stream} {piece : String} {rest : List String}
    {error : Option StreamError} {usage : Option Usage} :
    stream.Tells ⟨piece :: rest, error, usage⟩ ↔
      stream.pull.1 = .fragment piece ∧ stream.pull.2.Tells ⟨rest, error, usage⟩ := by
  constructor
  · rintro ⟨last, pulled, known⟩
    rw [List.length_cons, pulls] at pulled
    simp only [List.map_cons, List.cons_append, Prod.mk.injEq, List.cons.injEq] at pulled
    exact ⟨pulled.1.1, last, Prod.ext pulled.1.2 pulled.2, known⟩
  · rintro ⟨handed, last, pulled, known⟩
    refine ⟨last, ?_, known⟩
    rw [List.length_cons, pulls]
    simp only [handed, pulled]
    rfl

/-- What a stream tells is its story and no other. The induction is on the pieces, and each step is
one pull. -/
theorem tells_iff {stream : Stream} {story : Story} :
    stream.Tells story ↔ stream.story = story := by
  obtain ⟨pieces, error, usage⟩ := story
  induction pieces generalizing stream with
  | nil =>
      constructor
      · rintro ⟨last, pulled, known⟩
        obtain ⟨result, rfl⟩ : stream.pull.1 = (⟨[], error, usage⟩ : Story).closing ∧
            stream.pull.2 = last := by simpa [pulls] using pulled
        cases pieces : stream.story.pieces with
        | cons piece rest =>
            have handed := (pull_of_pieces rfl pieces).1
            exact absurd (result.symm.trans handed) (Story.closing_ne_fragment _ _)
        | nil =>
            obtain ⟨closing, usage, -⟩ := pull_of_no_pieces rfl pieces
            refine Story.ext_closing pieces (closing.symm.trans result) ?_
            rw [← known, Story.metadata, ← usage]
            rfl
      · intro tells
        obtain ⟨closing, usage, -⟩ := pull_of_no_pieces tells rfl
        exact ⟨stream.pull.2, by simp [pulls, closing], by rw [Story.metadata, ← usage]; rfl⟩
  | cons piece rest ih =>
      rw [tells_cons, ih]
      constructor
      · rintro ⟨handed, tells⟩
        cases pieces : stream.story.pieces with
        | cons other more =>
            obtain ⟨handed', onward⟩ := pull_of_pieces rfl pieces
            obtain rfl := Pulled.fragment.inj (handed'.symm.trans handed)
            obtain ⟨rfl, rfl, rfl⟩ : more = rest ∧ stream.story.error = error ∧
                stream.story.usage = usage := by simpa using onward.symm.trans tells
            rw [← pieces]
        | nil =>
            have closing := (pull_of_no_pieces rfl pieces).1
            exact absurd (closing.symm.trans handed) (Story.closing_ne_fragment _ _)
      · intro tells
        exact pull_of_pieces tells rfl

end Stream

end TokenRelay.Chat
