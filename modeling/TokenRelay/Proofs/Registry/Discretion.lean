/-
# What interrupts tell a caller

Supplies all that a caller can learn from the answers to its interrupts: whether an identifier is
registered, whether its stream belongs to the caller, and, of the caller's own streams, whether they
are done. The answer to an interrupt depends on nothing else, and neither does what the caller can
learn afterwards, as long as each record has a handle of its own. So registries that a caller cannot
tell apart at first give it the same answers for ever.
-/

import TokenRelay.Proofs.Registry.Ledger
import TokenRelay.Registry.Interrupt

namespace TokenRelay.Registry

/-- Each record has a handle of its own. -/
structure Separate (registry : Registry) : Prop where
  sound : registry.Sound
  own : ∀ {first second : String} {one other : ActiveStream},
    registry.lookup first = some one → registry.lookup second = some other →
    one.handle = other.handle → first = second

/-- The registries have the same identifiers, and they agree on which streams belong to the caller
and whether those are done. They may differ in the owners of all other streams, in whether those are
done, and in the numbers of all handles. -/
structure Alike (caller : String) (first second : Registry) : Prop where
  separate : first.Separate ∧ second.Separate
  registered : ∀ requestId, (first.lookup requestId).isSome ↔ (second.lookup requestId).isSome
  owned : ∀ {requestId one other}, first.lookup requestId = some one →
    second.lookup requestId = some other → (one.owner = caller ↔ other.owner = caller)
  done : ∀ {requestId one other}, first.lookup requestId = some one →
    second.lookup requestId = some other → one.owner = caller →
    (first.handle one.handle).isDone = (second.handle other.handle).isDone

/-- What an identifier is to a caller. -/
inductive Standing where
  | unknown
  /-- The stream belongs to somebody else. -/
  | foreign
  | own (done : Bool)
  deriving DecidableEq

/-- What an identifier of a registry is to a caller. -/
def standing (registry : Registry) (caller requestId : String) : Standing :=
  match registry.lookup requestId with
  | none => .unknown
  | some stream =>
    if stream.owner = caller then .own (registry.handle stream.handle).isDone else .foreign

/-- What becomes of an attempt to cancel a stream. -/
def Standing.outcome : Standing → CancelOutcome
  | .unknown => .notFound
  | .foreign => .forbidden
  | .own false => .cancelled
  | .own true => .alreadyDone

/-- What the identifier is to the caller after the attempt. -/
def Standing.asked : Standing → Standing
  | .own _ => .own true
  | .unknown => .unknown
  | .foreign => .foreign

variable {registry first second : Registry} {caller requestId : String}

/-- What alike registries keep while they serve the same interrupts: every identifier is the same to
the caller in both. -/
structure Indistinct (caller : String) (first second : Registry) : Prop where
  separate : first.Separate ∧ second.Separate
  standing_eq : ∀ requestId,
    first.standing caller requestId = second.standing caller requestId

theorem Alike.indistinct (alike : first.Alike caller second) : Indistinct caller first second := by
  refine ⟨alike.separate, fun requestId => ?_⟩
  have registered := alike.registered requestId
  unfold standing
  cases found : first.lookup requestId with
  | none =>
      cases found' : second.lookup requestId with
      | none => rfl
      | some other => simp [found, found'] at registered
  | some one =>
      cases found' : second.lookup requestId with
      | none => simp [found, found'] at registered
      | some other =>
          have owned := alike.owned found found'
          by_cases mine : one.owner = caller
          · simp only [if_pos mine, if_pos (owned.1 mine), alike.done found found' mine]
          · simp only [if_neg mine, if_neg fun its => mine (owned.2 its)]

/-- What a caller is told depends on what the identifier is to it. -/
theorem fst_cancelStream (registry : Registry) (requestId caller : String) :
    (registry.cancelStream requestId caller).1 = (registry.standing caller requestId).outcome := by
  unfold cancelStream standing
  cases registry.lookup requestId with
  | none => rfl
  | some stream =>
      by_cases mine : stream.owner = caller
      · cases done : (registry.handle stream.handle).isDone <;> simp [mine, done, Standing.outcome]
      · simp [mine, Standing.outcome]

theorem fst_interrupt (registry : Registry) (requestId caller : String) :
    (registry.interrupt requestId caller).1 =
      interruptResult requestId (registry.standing caller requestId).outcome :=
  congrArg (interruptResult requestId) (registry.fst_cancelStream requestId caller)

theorem lookup_cancelStream (registry : Registry) (requestId caller other : String) :
    (registry.cancelStream requestId caller).2.lookup other = registry.lookup other := by
  rw [lookup, streams_cancelStream, lookup]

/-- Interrupts leave every record its own handle. -/
theorem Separate.cancelStream (separate : registry.Separate) (requestId caller : String) :
    (registry.cancelStream requestId caller).2.Separate where
  sound := separate.sound.serve rfl (.cancelStream requestId caller)
  own found found' := by
    rw [lookup_cancelStream] at found found'
    exact separate.own found found'

/-- An attempt changes nothing for its caller but that the stream is done, if it is the caller's. -/
theorem Separate.standing_cancelStream (separate : registry.Separate)
    (requestId caller other : String) :
    (registry.cancelStream requestId caller).2.standing caller other =
      if other = requestId then (registry.standing caller requestId).asked
      else registry.standing caller other := by
  by_cases accepted : (registry.cancelStream requestId caller).1 = .cancelled
  · obtain ⟨stream, found, mine, -⟩ :=
      (registry.cancelStream_eq_cancelled_iff requestId caller).1 accepted
    have told := separate.sound.told found accepted
    unfold standing
    rw [lookup_cancelStream]
    simp only [told]
    by_cases same : other = requestId
    · subst other
      simp [found, mine, Standing.asked, Handle.isDone]
    · rw [if_neg same]
      cases found' : registry.lookup other with
      | none => rfl
      | some another =>
          have distinct : another.handle ≠ stream.handle :=
            fun shared => same (separate.own found' found shared)
          simp only [if_neg distinct]
  · rw [registry.cancelStream_of_not_cancelled accepted]
    split
    · next same =>
      rw [fst_cancelStream] at accepted
      subst other
      generalize registry.standing caller requestId = standing at accepted ⊢
      cases standing with
      | unknown | foreign => rfl
      | own done =>
          cases done with
          | true => rfl
          | false => exact absurd rfl accepted
    · rfl

/-- An interrupt is answered alike, and leaves every identifier the same to the caller. -/
theorem Indistinct.interrupt (indistinct : Indistinct caller first second) (requestId : String) :
    (first.interrupt requestId caller).1 = (second.interrupt requestId caller).1 ∧
      Indistinct caller (first.interrupt requestId caller).2
        (second.interrupt requestId caller).2 := by
  obtain ⟨⟨separate, separate'⟩, same⟩ := indistinct
  refine ⟨?_, ⟨separate.cancelStream requestId caller, separate'.cancelStream requestId caller⟩,
    fun other => ?_⟩
  · rw [fst_interrupt, fst_interrupt, same]
  · have after := separate.standing_cancelStream requestId caller other
    rw [same, same] at after
    exact after.trans (separate'.standing_cancelStream requestId caller other).symm

/-- The answers to the interrupts that a caller asks for one after the other. -/
def interruptAll (registry : Registry) (caller : String) : List String → List InterruptResult
  | [] => []
  | requestId :: rest =>
    (registry.interrupt requestId caller).1 ::
      (registry.interrupt requestId caller).2.interruptAll caller rest

theorem Indistinct.interruptAll_eq (indistinct : Indistinct caller first second)
    (requestIds : List String) :
    first.interruptAll caller requestIds = second.interruptAll caller requestIds := by
  induction requestIds generalizing first second with
  | nil => rfl
  | cons requestId rest ih =>
      obtain ⟨answered, after⟩ := indistinct.interrupt requestId
      rw [interruptAll, interruptAll, answered, ih after]

end TokenRelay.Registry
