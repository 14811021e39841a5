/-
# Faithful streams

Supplies what a consumer may rely on at any time. What has been sent is a beginning of the ideal
stream, what the consumer has been handed is a beginning of what has been sent, and the outcome fits
both. All of it can be read off the stage of a session that follows its ideal stream.
-/

import TokenRelay.Proofs.Session.Stage

namespace TokenRelay.Session

variable {request : SessionRequest} {source : Script} {given : List String} {session : Session}

/-- Nothing a consumer does takes a session off its stream. -/
theorem Follows.channel (follows : session.Follows request source given) {channel : Channel}
    (sent : channel.sent = session.channel.sent)
    (gone : session.channel.abandoned = true → channel.abandoned = true) :
    Follows request source given { session with channel } := by
  refine { follows.toServes with stage := ?_ }
  have stage := follows.stage
  unfold Stage at stage ⊢
  simp only [sent]
  cases phase : session.phase with
  | created | awaiting | sending | reporting | closing => simpa only [phase] using stage
  | ended outcome =>
      simp only [phase] at stage ⊢
      cases outcome with
      | completed | cancelled => exact stage
      | failed message =>
          exact ⟨stage.1.imp id fun early => ⟨early.1, gone early.2⟩, stage.2⟩
      | disconnected => exact ⟨stage.1, stage.2.1, gone stage.2.2⟩

/-- What holds of a stream whose consumer has been handed some items. -/
structure Faithful (request : SessionRequest) (source : Script) (heard : List Item)
    (session : Session) : Prop where
  sent_prefix : session.channel.sent.toList <+: request.ideal source
  heard_prefix : heard <+: session.channel.sent.toList
  completed_iff : session.outcome? = some .completed ↔
    ∃ item ∈ session.channel.sent.toList, item.isEnd = true
  /-- Only a source that fails makes a session fail. -/
  failed : ∀ message, session.outcome? = some (.failed message) → source.Fails message
  /-- A stream that was cut short is just cut short. -/
  plain : session.outcome? = some .cancelled ∨ session.outcome? = some .disconnected →
    ∀ item ∈ session.channel.sent.toList, item.isEnd = false ∧ item.isFailure = false
  /-- Consumers learn of an error as one at the far end. -/
  remote : ∀ error, .failure error ∈ session.channel.sent.toList →
    ∃ message, error = .remote message

/-- The end event has been sent exactly by the sessions that are complete. -/
theorem Follows.completed_iff (follows : session.Follows request source given) :
    session.outcome? = some .completed ↔
      ∃ item ∈ session.channel.sent.toList, item.isEnd = true := by
  have stage := follows.stage
  have opened : session.channel.sent.toList = request.opening given →
      ¬ ∃ item ∈ session.channel.sent.toList, item.isEnd = true := by
    rintro sent ⟨item, inside, isEnd⟩
    rw [sent] at inside
    have plain := (SessionRequest.plain_of_mem_opening inside).1
    rw [isEnd] at plain
    cases plain
  unfold Stage at stage
  rw [outcome?_eq_some_iff]
  cases phase : session.phase with
  | created =>
      simp only [phase] at stage
      simp [stage.2.1]
  | awaiting | sending | reporting | closing =>
      simp only [phase] at stage
      simpa using opened stage.1
  | ended outcome =>
      simp only [phase] at stage
      cases outcome with
      | completed =>
          refine iff_of_true rfl ⟨.event (.finish source.metadata request.quotas), ?_, rfl⟩
          simp [stage.1, SessionRequest.ideal, SessionRequest.closing, stage.2.2]
      | failed message =>
          apply iff_of_false (by simp)
          rcases stage.1 with sent | ⟨sent, -⟩
          · rintro ⟨item, inside, isEnd⟩
            rw [sent] at inside
            have finished := SessionRequest.finished_of_mem_ideal inside isEnd
            rcases stage.2.2 with ⟨error, failed, -⟩ | ⟨crashed, -⟩
            · rw [finished] at failed
              cases failed
            · rw [finished] at crashed
              cases crashed
          · exact opened sent
      | cancelled | disconnected =>
          apply iff_of_false (by simp)
          rcases stage.1 with sent | sent
          · simp [sent]
          · exact opened sent

/-- A session on its stream is faithful, once its consumer has been handed what it received. -/
theorem Follows.faithful (follows : session.Follows request source given) {heard : List Item}
    (handed : heard = session.channel.sent.toList.take session.channel.received) :
    session.Faithful request source heard where
  sent_prefix := follows.sent_prefix_ideal
  heard_prefix := by
    rw [handed]
    exact List.take_prefix _ _
  completed_iff := follows.completed_iff
  failed := by
    intro message isOver
    have stage := follows.stage
    rw [outcome?_eq_some_iff] at isOver
    simp only [Stage, isOver] at stage
    exact stage.2.2
  plain := by
    intro short item inside
    have stage := follows.stage
    have sent : session.channel.sent.toList = [] ∨
        session.channel.sent.toList = request.opening given := by
      simp only [outcome?_eq_some_iff] at short
      rcases short with isOver | isOver
      · simp only [Stage, isOver] at stage
        exact stage.1
      · simp only [Stage, isOver] at stage
        exact stage.1
    rcases sent with none | opening
    · rw [none] at inside
      cases inside
    · rw [opening] at inside
      exact SessionRequest.plain_of_mem_opening inside
  remote := by
    intro error inside
    exact SessionRequest.remote_of_mem_ideal (follows.sent_prefix_ideal.subset inside)

end TokenRelay.Session
