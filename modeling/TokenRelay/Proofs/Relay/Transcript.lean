/-
# Transcripts agree with streams

Supplies what the record of a session says about its stream. A session notes down every fragment
as it sends it, so what it has noted are the tokens in its channel. It hands over its record in the
poll in which it ends, and never another one: the record speaks of the stream as it stays.
-/

import TokenRelay.Proofs.Relay.Delivery
import TokenRelay.Proofs.Relay.Isolation
import TokenRelay.Proofs.Relay.Records

namespace TokenRelay

/-- The text of a token event. -/
def Item.tokenText? : Item → Option String
  | .event (.token _ text) => some text
  | .event (.start _ _) | .event (.finish _ _) | .failure _ => none

/-- The items of fragments are token events with their texts. -/
theorem Item.filterMap_tokens (fragments : List String) :
    (Item.tokens fragments).filterMap Item.tokenText? = fragments := by
  have text (pair : String × Nat) :
      (Item.token pair.2 pair.1).tokenText? = some pair.1 := rfl
  simp only [Item.tokens, List.filterMap_map, Function.comp_def, text, List.filterMap_eq_map']
  exact List.zipIdx_map_fst 0 fragments

theorem SessionRequest.filterMap_ideal (request : SessionRequest) (source : Script) :
    (request.ideal source).filterMap Item.tokenText? = source.fragments := by
  have opening : (request.opening source.fragments).filterMap Item.tokenText? =
      source.fragments := Item.filterMap_tokens source.fragments
  have nothing : (request.closing source).filterMap Item.tokenText? = [] := by
    unfold closing
    cases source.ending <;> rfl
  rw [ideal, List.filterMap_append, opening, nothing, List.append_nil]

namespace Channel

/-- The texts of the token events that have been sent. -/
def tokenTexts (channel : Channel) : List String :=
  channel.sent.toList.filterMap Item.tokenText?

theorem tokenTexts_send (channel : Channel) (item : Item) :
    (channel.send item).tokenTexts = channel.tokenTexts ++ item.tokenText?.toList := by
  simp only [tokenTexts, send, Array.toList_push, List.filterMap_append, List.filterMap_cons,
    List.filterMap_nil]
  cases item.tokenText? <;> rfl

end Channel

namespace Session

/-- What the session has noted down are the tokens in its channel. -/
def Noted (session : Session) : Prop :=
  session.accumulator.text = String.join session.channel.tokenTexts

variable {session : Session}

theorem Noted.steps (noted : session.Noted) (steps : List Step) :
    Noted { session with source := { session.source with steps } } := noted

theorem Noted.send (noted : session.Noted) {item : Item} (silent : item.tokenText? = none) :
    Noted { session with channel := session.channel.send item } := by
  unfold Noted
  rw [Channel.tokenTexts_send, silent, Option.toList_none, List.append_nil]
  exact noted

theorem Noted.sendToken (noted : session.Noted) (fragment : String) :
    (session.sendToken fragment).Noted := by
  have joined : session.accumulator.text = String.join session.channel.tokenTexts := noted
  simp [Noted, Session.sendToken, emit, Channel.tokenTexts_send, Item.tokenText?,
    Accumulator.push, joined]

theorem Noted.report (noted : session.Noted) (error : StreamError) :
    (session.report error).Noted := by
  unfold Session.report
  split
  · exact noted
  · split
    · exact noted.send rfl
    · exact noted

theorem Noted.close (noted : session.Noted) : session.close.Noted := by
  unfold Session.close
  split
  · exact noted
  · split
    · exact noted.send rfl
    · exact noted

/-- The induction is on the steps that are left; only a step that sends a fragment notes one. -/
theorem Noted.forward (noted : session.Noted) (now : Nat) (steps : List Step) :
    (session.forward now steps).Noted := by
  induction steps generalizing session with
  | nil =>
      simp only [Session.forward]
      split
      · exact noted
      · exact (noted.steps []).close
  | cons step rest ih =>
      simp only [Session.forward]
      split
      · exact noted
      · split
        · split
          · exact ih (noted.sendToken _)
          · exact noted
        · exact (noted.steps rest).report _
        · exact (noted.steps rest).close
        · exact noted
        · exact noted

theorem Noted.poll (noted : session.Noted) (cancelled : Bool) (now : Nat) :
    (session.poll cancelled now).Noted := by
  have step := polled cancelled now session
  generalize session.poll cancelled now = after at step ⊢
  cases step with
  | ended | waited | stopped | deserted => exact noted
  | reported => exact noted.report _
  | closed => exact noted.close
  | opened => exact (noted.send rfl).forward now _
  | pulled | resumed => exact noted.forward now _

/-- What the records of a session are: the one that it hands over once it has ended, if it hands
over any. -/
def Recorded (partials : Bool) (session : Session) (records : List TranscriptRecord) : Prop :=
  ∃ timestamp, records = (session.transcript? partials timestamp).toList

/-- What the records that a session has handed over say about its stream. -/
structure Transcribed (request : SessionRequest) (source : Script) (partials : Bool)
    (session : Session) (records : List TranscriptRecord) : Prop where
  length_le : records.length ≤ 1
  handed_iff : records ≠ [] ↔ session.outcome? = some .completed ∨
    partials = true ∧
      (session.outcome? = some .cancelled ∨ session.outcome? = some .disconnected)
  request_eq : ∀ record ∈ records, record.userId = request.owner ∧
    record.conversationId = request.conversationId ∧ record.requestId = request.requestId ∧
    record.query = request.query ∧ record.provider = request.provider ∧
    record.model = request.model
  /-- The response is made of exactly the tokens that have been sent. -/
  response_eq : ∀ record ∈ records, record.response = String.join session.channel.tokenTexts
  /-- The record of a complete turn has all fragments and the metadata of the end event. -/
  complete : session.outcome? = some .completed → ∀ record ∈ records,
    record.interrupted = false ∧ session.channel.tokenTexts = source.fragments ∧
      session.channel.sent.toList.getLast? =
        some (.event (.finish record.metadata request.quotas))
  /-- Of a turn that was cut short nothing is known but that, and how far it came. -/
  cutShort : session.outcome? ≠ some .completed → ∀ record ∈ records,
    record.interrupted = true ∧ record.metadata = { truncated := some true } ∧
      session.channel.tokenTexts <+: source.fragments

variable {request : SessionRequest} {source : Script} {given : List String} {partials : Bool}
  {records : List TranscriptRecord}

/-- The outcome of a session decides whether it hands over a record and what the record says. -/
theorem transcript?_eq (session : Session) (partials : Bool) (timestamp : Timestamp) :
    session.transcript? partials timestamp =
      if session.outcome? = some .completed ∨
          partials = true ∧
            (session.outcome? = some .cancelled ∨ session.outcome? = some .disconnected) then
        some
          { userId := session.request.owner
            conversationId := session.request.conversationId
            requestId := session.request.requestId
            query := session.request.query
            response := session.accumulator.text
            provider := session.request.provider
            model := session.request.model
            metadata :=
              if session.outcome? = some .completed then session.source.metadata else .cutShort
            interrupted := decide (session.outcome? ≠ some .completed)
            timestamp := timestamp }
      else none := by
  unfold transcript? outcome?
  cases session.phase with
  | created | awaiting | sending | reporting | closing => simp
  | ended outcome => cases outcome <;> simp

/-- So the records of a session that follows its ideal stream agree with what it has sent. -/
theorem Follows.transcribed (follows : session.Follows request source given)
    (noted : session.Noted) (recorded : session.Recorded partials records) :
    session.Transcribed request source partials records := by
  obtain ⟨timestamp, rfl⟩ := recorded
  rw [transcript?_eq]
  have sent := follows.sent_prefix_ideal
  have beginning : session.channel.tokenTexts <+: source.fragments := by
    rw [← request.filterMap_ideal source]
    exact sent.filterMap _
  have same := follows.request_eq
  split
  · next handed =>
    constructor
    case length_le => exact Nat.le_refl 1
    case handed_iff => exact iff_of_true (List.cons_ne_nil _ _) handed
    case request_eq =>
      intro record inside
      obtain rfl := List.mem_singleton.1 inside
      simp [same]
    case response_eq =>
      intro record inside
      obtain rfl := List.mem_singleton.1 inside
      exact noted
    case complete =>
      intro isOver record inside
      obtain rfl := List.mem_singleton.1 inside
      have stage := follows.stage
      simp only [Stage, outcome?_eq_some_iff.1 isOver] at stage
      obtain ⟨all, -, finished⟩ := stage
      refine ⟨by simp [isOver], ?_, ?_⟩
      · rw [Channel.tokenTexts, all, request.filterMap_ideal]
      · simp [all, isOver, SessionRequest.ideal, SessionRequest.closing, finished,
          follows.metadata_eq]
    case cutShort =>
      intro short record inside
      obtain rfl := List.mem_singleton.1 inside
      exact ⟨by simp [short], by simp [short, TurnMetadata.cutShort], beginning⟩
  · next kept =>
    have empty {record : TranscriptRecord} : record ∉ [] := List.not_mem_nil
    exact ⟨Nat.zero_le 1, iff_of_false (fun some => some rfl) kept,
      fun record inside => absurd inside empty,
      fun record inside => absurd inside empty,
      fun _ record inside => absurd inside empty,
      fun _ record inside => absurd inside empty⟩

end Session

namespace Relay

/-- The records that an operation adds to those handed over before. -/
def added (relay : Relay) (move : Move) : List TranscriptRecord :=
  (relay.move move).records.drop relay.records.length

/-- The records that the session at a place hands over in an operation: those that a poll of it
adds. -/
def yielded (relay : Relay) (number : Nat) : Move → List TranscriptRecord
  | .poll target => if target = number then relay.added (.poll target) else []
  | .start _ _ _ | .advance _ | .receive _ | .abandon _ | .cancelStream _ _ | .cancelAll => []

/-- The records that the session at a place hands over in the course of some operations. -/
def recordsOf (relay : Relay) (number : Nat) : List Move → List TranscriptRecord
  | [] => []
  | move :: moves => relay.yielded number move ++ (relay.move move).recordsOf number moves

theorem added_eq (relay : Relay) (move : Move) : relay.added move = relay.handedOver move := by
  rw [added, (shared_move relay move).2.2, List.drop_left]

/-- A session that has ended yields nothing more, and one that goes on has yielded nothing yet. -/
theorem recorded_move {relay : Relay} {number : Nat} {session : Session} {partials : Bool}
    {earlier : List TranscriptRecord} (sink : relay.transcripts = .keep partials)
    (found : relay.sessions[number]? = some session)
    (recorded : session.Recorded partials earlier) (move : Move) :
    (relay.afterMove number session move).Recorded partials
      (earlier ++ relay.yielded number move) := by
  cases move with
  | start | advance | cancelStream | cancelAll => simpa [yielded, afterMove] using recorded
  | receive target =>
      simp only [yielded, List.append_nil, afterMove]
      split
      · obtain ⟨channel, same, -⟩ := session.exists_afterReceive
        rw [same]
        exact recorded
      · exact recorded
  | abandon target =>
      simp only [yielded, List.append_nil, afterMove]
      split <;> exact recorded
  | poll target =>
      by_cases same : target = number
      · subst target
        simp only [yielded, if_true, added_eq, handedOver_poll found]
        cases ended : session.outcome? with
        | some outcome =>
            simpa [afterMove, Session.poll_of_ended ended] using recorded
        | none =>
            obtain ⟨timestamp, rfl⟩ := recorded
            rw [Session.transcript?_of_unended ended]
            exact ⟨.ofMilliseconds relay.clock, by simp [transcriptOf, sink]⟩
      · simpa [yielded, afterMove, same] using recorded

theorem noted_afterMove {session : Session} (noted : session.Noted) (relay : Relay)
    (number : Nat) (move : Move) : (relay.afterMove number session move).Noted := by
  cases move with
  | poll target =>
      simp only [afterMove]
      split
      · exact noted.poll _ _
      · exact noted
  | receive target =>
      simp only [afterMove]
      split
      · obtain ⟨channel, same, sent, -⟩ := session.exists_afterReceive
        rw [same]
        simpa only [Session.Noted, Channel.tokenTexts, sent] using noted
      · exact noted
  | abandon target => simp only [afterMove]; split <;> exact noted
  | start | advance | cancelStream | cancelAll => exact noted

/-- What a session has yielded in a run is its record, if it has ended with one. -/
theorem recorded_play {relay : Relay} {number : Nat} {session : Session} {partials : Bool}
    {earlier : List TranscriptRecord} (sink : relay.transcripts = .keep partials)
    (found : relay.sessions[number]? = some session) (noted : session.Noted)
    (recorded : session.Recorded partials earlier) (moves : List Move) :
    ∃ later, (relay.play moves).sessions[number]? = some later ∧ later.Noted ∧
      later.Recorded partials (earlier ++ relay.recordsOf number moves) := by
  induction moves generalizing relay session earlier with
  | nil => exact ⟨session, found, noted, by simpa [recordsOf] using recorded⟩
  | cons move moves ih =>
      have sink' : (relay.move move).transcripts = .keep partials :=
        (shared_move relay move).2.1.trans sink
      obtain ⟨later, there, notedLater, recordedLater⟩ := ih sink'
        (getElem?_sessions_move found move) (noted_afterMove noted relay number move)
        (recorded_move sink found recorded move)
      rw [List.append_assoc] at recordedLater
      exact ⟨later, there, notedLater, recordedLater⟩

/-- Of the records that an operation adds, those with the identifier of a session are its own. -/
theorem filter_added {relay : Relay} {number : Nat} {request : SessionRequest}
    (singles : relay.Singles number request) (move : Move) :
    (relay.added move).filter (·.requestId = request.requestId) = relay.yielded number move := by
  rw [added_eq]
  cases move with
  | start | advance | receive | abandon | cancelStream | cancelAll => rfl
  | poll target =>
      by_cases same : target = number
      · subst target
        rw [yielded, if_pos rfl, added_eq, List.filter_eq_self]
        intro record inside
        obtain ⟨session, found, identifier⟩ := requestId_of_mem_handedOver inside
        rcases singles found with ⟨-, rfl⟩ | ⟨other, -⟩
        · exact decide_eq_true identifier
        · exact absurd rfl other
      · rw [yielded, if_neg same, List.filter_eq_nil_iff]
        intro record inside
        obtain ⟨session, found, identifier⟩ := requestId_of_mem_handedOver inside
        rcases singles found with ⟨place, -⟩ | ⟨-, different⟩
        · exact absurd place same
        · simpa [identifier] using different

/-- If identifiers are not used twice, the records of a session are those with its identifier. -/
theorem filter_records_play {relay : Relay} {number : Nat} {request : SessionRequest}
    {moves : List Move} (singles : (relay.play moves).Singles number request) :
    ((relay.play moves).records.drop relay.records.length).filter
        (·.requestId = request.requestId) = relay.recordsOf number moves := by
  obtain ⟨rest, more, own⟩ : ∃ rest, (relay.play moves).records = relay.records ++ rest ∧
      rest.filter (·.requestId = request.requestId) = relay.recordsOf number moves := by
    induction moves generalizing relay with
    | nil => exact ⟨[], (List.append_nil _).symm, rfl⟩
    | cons move moves ih =>
        obtain ⟨rest, more, own⟩ := ih singles
        have first := (shared_move relay move).2.2
        have before : relay.Singles number request := singles.of_play
        refine ⟨relay.added move ++ rest, ?_, ?_⟩
        · rw [play_cons, more, first, added_eq, List.append_assoc]
        · rw [List.filter_append, own, filter_added before]
          rfl
  rw [more, List.drop_left, own]

/-- The transcript of a session agrees with its stream, whatever happens to the session and around
it. At most one record is handed over, by a complete turn always and by one that was cut short only
if such turns are kept, and what it says is what the channel has got. -/
theorem transcript_agrees {relay : Relay} {partials : Bool}
    (sink : relay.transcripts = .keep partials) (capacity : Channel.Capacity)
    (request : SessionRequest) (source : Script) (moves : List Move) :
    let number := relay.nextSession
    let started := relay.move (.start capacity request source)
    let records := started.recordsOf number moves
    ∃ session, (started.play moves).sessions[number]? = some session ∧
      session.Transcribed request source partials records ∧
      ((started.play moves).Distinct →
        records = ((started.play moves).records.drop relay.records.length).filter
          (·.requestId = request.requestId)) := by
  intro number started records
  obtain ⟨session, found, ⟨given, follows⟩, -⟩ :=
    relay.follows_play_start capacity request source moves
  have fresh : ((relay.withCapacity capacity).freshSession request source).Recorded partials [] :=
    ⟨.ofMilliseconds 0, rfl⟩
  obtain ⟨-, transcripts, handedOver⟩ := relay.shared_move (.start capacity request source)
  have sink' : started.transcripts = .keep partials := transcripts.trans sink
  have unrecorded : started.records = relay.records := handedOver.trans (List.append_nil _)
  obtain ⟨session', found', noted, recorded⟩ := recorded_play sink'
    (relay.getElem?_sessions_start capacity request source) rfl fresh moves
  obtain rfl : session = session' := Option.some.inj (found.symm.trans found')
  refine ⟨session, found, follows.transcribed noted recorded, fun distinct => ?_⟩
  have singles := distinct.singles found
  rw [follows.request_eq] at singles
  rw [← unrecorded]
  exact (filter_records_play singles).symm

/-- A turn that is interrupted while its second fragment waits for room. -/
def interruptedTurn : List Move :=
  [.poll 0, .receive 0, .poll 0, .cancelStream "r1" "alice", .poll 0]

/-- Its record has the first fragment only. -/
theorem transcript_agrees_interruptedTurn :
    let request : SessionRequest :=
      { requestId := "r1", conversationId := "c1", owner := "alice", query := "q" }
    let source := Script.ofFragments ["par", "tial"] {}
    let started := (new 1 (.keep true)).move (.start .single request source)
    (new 1 (.keep true)).transcripts = .keep true ∧
      ∃ session, (started.play interruptedTurn).sessions[0]? = some session ∧
        session.Transcribed request source true (started.recordsOf 0 interruptedTurn) ∧
        (started.recordsOf 0 interruptedTurn).map (·.response) = ["par"] := by
  intro request source started
  have sink : (new 1 (.keep true)).transcripts = .keep true := rfl
  obtain ⟨session, found, transcribed, -⟩ :=
    transcript_agrees sink .single request source interruptedTurn
  exact ⟨sink, session, found, transcribed, by decide⟩

end Relay

end TokenRelay
