/-
# The ideal stream of a source

Supplies what a session delivers if nobody interferes: the start event, one token event for every
fragment of its source, numbered from zero, and then the end event or the error of the source.
-/

import TokenRelay.Session.Basic

namespace TokenRelay

namespace Script

/-- The fragments that steps bring before they bring anything else. -/
def fragmentsOf : List Step → List String
  | [] => []
  | step :: rest =>
    match step.action with
    | .fragment text => text :: fragmentsOf rest
    | .fail _ | .finish | .hang | .crash => []

/-- What comes behind the fragments of a source. -/
inductive Ending where
  | finished
  | failed (error : StreamError)
  /-- Nothing comes any more. -/
  | hung
  /-- The work that pulls ends. -/
  | crashed

/-- What steps bring behind their fragments. -/
def endingOf (endless : Bool) : List Step → Ending
  | [] => if endless then .hung else .finished
  | step :: rest =>
    match step.action with
    | .fragment _ => endingOf endless rest
    | .fail error => .failed error
    | .finish => .finished
    | .hang => .hung
    | .crash => .crashed

def fragments (source : Script) : List String := fragmentsOf source.steps

def ending (source : Script) : Ending := endingOf source.endless source.steps

/-- The source fails, and the failure is reported with a message. -/
def Fails (source : Script) (message : String) : Prop :=
  (∃ error, source.ending = .failed error ∧ message = error.text) ∨
    source.ending = .crashed ∧ message = "session task panicked"

/-- The source comes to its end or to an error. -/
def IsFinite (source : Script) : Prop :=
  source.ending = .finished ∨ ∃ error, source.ending = .failed error

end Script

namespace Item

/-- The item is an end event. -/
def isEnd : Item → Bool
  | .event (.finish _ _) => true
  | .event (.start _ _) | .event (.token _ _) | .failure _ => false

def isFailure : Item → Bool
  | .failure _ => true
  | .event _ => false

/-- The item of one fragment. -/
def token (index : Nat) (text : String) : Item := .event (.token (UInt64.ofNat index) text)

/-- The items of fragments, numbered from zero. -/
def tokens (fragments : List String) : List Item :=
  fragments.zipIdx.map fun (text, index) => token index text

theorem tokens_concat (fragments : List String) (text : String) :
    tokens (fragments ++ [text]) = tokens fragments ++ [token fragments.length text] := by
  simp [tokens, List.zipIdx_append]

theorem tokens_append (first second : List String) :
    tokens first <+: tokens (first ++ second) := by
  simp [tokens, List.zipIdx_append]

/-- Items of fragments neither end a stream nor report an error. -/
theorem plain_of_mem_tokens {fragments : List String} {item : Item}
    (inside : item ∈ tokens fragments) : item.isEnd = false ∧ item.isFailure = false := by
  simp only [tokens, List.mem_map] at inside
  obtain ⟨⟨text, index⟩, -, rfl⟩ := inside
  exact ⟨rfl, rfl⟩

end Item

namespace SessionRequest

/-- What is sent once some fragments have been sent, and no more. -/
def opening (request : SessionRequest) (given : List String) : List Item :=
  .event (.start request.conversationId request.requestId) :: Item.tokens given

/-- What closes the stream of a source. -/
def closing (request : SessionRequest) (source : Script) : List Item :=
  match source.ending with
  | .finished => [.event (.finish source.metadata request.quotas)]
  | .failed error => [.failure error.asRemote]
  | .hung | .crashed => []

/-- The stream of a source that is delivered in full. -/
def ideal (request : SessionRequest) (source : Script) : List Item :=
  request.opening source.fragments ++ request.closing source

theorem opening_concat (request : SessionRequest) (given : List String) (text : String) :
    request.opening (given ++ [text]) =
      request.opening given ++ [Item.token given.length text] := by
  simp [opening, Item.tokens_concat]

/-- What has been sent while the source goes on is a beginning of the ideal stream. -/
theorem opening_prefix_ideal (request : SessionRequest) {source : Script} {given : List String}
    (beginning : given <+: source.fragments) :
    request.opening given <+: request.ideal source := by
  obtain ⟨rest, all⟩ := beginning
  have tokens : Item.tokens given <+: Item.tokens source.fragments := by
    rw [← all]
    exact Item.tokens_append given rest
  have openings : request.opening given <+: request.opening source.fragments :=
    List.cons_prefix_cons.2 ⟨rfl, tokens⟩
  exact openings.trans (List.prefix_append _ _)

theorem plain_of_mem_opening {request : SessionRequest} {given : List String} {item : Item}
    (inside : item ∈ request.opening given) : item.isEnd = false ∧ item.isFailure = false := by
  rcases List.mem_cons.1 inside with rfl | inTokens
  · exact ⟨rfl, rfl⟩
  · exact Item.plain_of_mem_tokens inTokens

/-- The items of an ideal stream that are not plain are the one that closes it. -/
theorem mem_ideal {request : SessionRequest} {source : Script} {item : Item}
    (inside : item ∈ request.ideal source) :
    (item.isEnd = false ∧ item.isFailure = false) ∨
      (source.ending = .finished ∧ item = .event (.finish source.metadata request.quotas)) ∨
      ∃ error, source.ending = .failed error ∧ item = .failure error.asRemote := by
  rcases List.mem_append.1 inside with opening | closing
  · exact .inl (plain_of_mem_opening opening)
  · unfold SessionRequest.closing at closing
    cases ending : source.ending with
    | finished =>
        simp only [ending] at closing
        exact .inr (.inl ⟨rfl, List.mem_singleton.1 closing⟩)
    | failed error =>
        simp only [ending] at closing
        exact .inr (.inr ⟨error, rfl, List.mem_singleton.1 closing⟩)
    | hung | crashed => simp [ending] at closing

/-- An end event tells that the source came to its end. -/
theorem finished_of_mem_ideal {request : SessionRequest} {source : Script} {item : Item}
    (inside : item ∈ request.ideal source) (isEnd : item.isEnd = true) :
    source.ending = .finished := by
  rcases mem_ideal inside with ⟨plain, -⟩ | ⟨finished, -⟩ | ⟨original, -, rfl⟩
  · rw [isEnd] at plain
    cases plain
  · exact finished
  · cases isEnd

/-- Every error in an ideal stream is one at the far end. -/
theorem remote_of_mem_ideal {request : SessionRequest} {source : Script} {error : StreamError}
    (inside : .failure error ∈ request.ideal source) : ∃ message, error = .remote message := by
  rcases mem_ideal inside with ⟨-, plain⟩ | ⟨-, same⟩ | ⟨original, -, same⟩
  · cases plain
  · cases same
  · cases same
    cases original with
    | remote message => exact ⟨message, rfl⟩
    | backend | transcript | invalidFrame | io => exact ⟨_, rfl⟩

end SessionRequest

end TokenRelay
