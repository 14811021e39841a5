/-
# Every handle is cancelled at most once

Supplies the account of the cancellations in a whole run of a registry. A run starts without records
and with handles that nothing has happened to, and consists of any calls in any order: identifiers
and handles may be used again, and one handle may be registered under several identifiers. The
handles that are accepted for cancellation are written down call by call; the account says that none
of them is written down twice, that they are the cancelled ones, and that the answers add up to
their number.
-/

import TokenRelay.Proofs.KeyMap
import TokenRelay.Proofs.Registry.Flags

namespace TokenRelay.Registry

/-- One call to a registry whose handles have the numbers below `count`. -/
inductive Call (count : Nat) where
  | register (requestId owner : String) (target : Fin count)
  | cancelStream (requestId caller : String)
  | deregister (requestId : String)
  /-- The work behind a handle reaches its end by itself. -/
  | finish (target : Fin count)
  | lookup (requestId : String)
  | cancelAll

variable {count : Nat}

/-- A registry without records, and with handles that have no flag set. -/
def fresh (count : Nat) : Registry := { handles := List.replicate count {} }

/-- The registry after one call. -/
def serve (registry : Registry) : Call count → Registry
  | .register requestId owner target => registry.register requestId owner target
  | .cancelStream requestId caller => (registry.cancelStream requestId caller).2
  | .deregister requestId => registry.deregister requestId
  | .finish target => registry.finishHandle target
  | .lookup _ => registry
  | .cancelAll => registry.cancelAll.2

/-- The registry after a sequence of calls. -/
def serveAll (registry : Registry) (calls : List (Call count)) : Registry :=
  calls.foldl serve registry

/-- How many cancellations the answer to a call reports. -/
def reported (registry : Registry) : Call count → Nat
  | .cancelStream requestId caller =>
    if (registry.cancelStream requestId caller).1 = .cancelled then 1 else 0
  | .cancelAll => registry.cancelAll.1
  | .register _ _ _ | .deregister _ | .finish _ | .lookup _ => 0

/-- How many cancellations the answers to a sequence of calls report. -/
def tally (registry : Registry) : List (Call count) → Nat
  | [] => 0
  | call :: calls => registry.reported call + (registry.serve call).tally calls

/-- The handles that are told to stop when the records of a list are visited one after the other. -/
def visit (registry : Registry) : List (String × ActiveStream) → List Nat
  | [] => []
  | (_, stream) :: rest =>
    if (registry.handle stream.handle).isDone then visit registry rest
    else stream.handle :: visit (registry.cancelHandle stream.handle) rest

/-- The handles that a call is accepted for: the one of the stream that a caller is told has been
cancelled, or all that a shutdown tells to stop. -/
def accepted (registry : Registry) : Call count → List Nat
  | .cancelStream requestId caller =>
    match registry.lookup requestId, (registry.cancelStream requestId caller).1 with
    | some stream, .cancelled => [stream.handle]
    | _, _ => []
  | .cancelAll => registry.visit registry.streams.entries
  | .register _ _ _ | .deregister _ | .finish _ | .lookup _ => []

/-- The handles that are accepted in a sequence of calls, in their order. -/
def ledger (registry : Registry) : List (Call count) → List Nat
  | [] => []
  | call :: calls => registry.accepted call ++ (registry.serve call).ledger calls

/-- A shutdown counts the handles that it tells to stop. -/
theorem fst_cancelEach (registry : Registry) (before : Nat)
    (entries : List (String × ActiveStream)) :
    (cancelEach before registry entries).1 = before + (registry.visit entries).length := by
  induction entries generalizing before registry with
  | nil => rfl
  | cons entry rest ih =>
      simp only [cancelEach, visit]
      split
      · exact ih registry before
      · rw [ih, List.length_cons]
        omega

/-- What is visited and running is told to stop, and nothing else. -/
theorem mem_visit (registry : Registry) (entries : List (String × ActiveStream)) (number : Nat) :
    number ∈ registry.visit entries ↔
      number ∈ handlesOf entries ∧ (registry.handle number).isDone = false := by
  induction entries generalizing registry with
  | nil => simp [visit, handlesOf]
  | cons entry rest ih =>
      obtain ⟨requestId, stream⟩ := entry
      have listed : number ∈ handlesOf ((requestId, stream) :: rest) ↔
          number = stream.handle ∨ number ∈ handlesOf rest := by
        simp [handlesOf]
      simp only [visit, listed]
      by_cases done : (registry.handle stream.handle).isDone = true
      · rw [if_pos done, ih]
        constructor
        · rintro ⟨inside, running⟩
          exact ⟨.inr inside, running⟩
        · rintro ⟨rfl | inside, running⟩
          · rw [done] at running
            cases running
          · exact ⟨inside, running⟩
      · rw [if_neg done, List.mem_cons, ih]
        by_cases same : number = stream.handle
        · subst number
          simpa using done
        · have other : (registry.cancelHandle stream.handle).handle number =
              registry.handle number := by
            simp [handle_cancelHandle, Ne.symm same]
          simp [same, other]

/-- Every record has a handle that there is. -/
def Sound (registry : Registry) : Prop :=
  ∀ ⦃requestId : String⦄ ⦃stream : ActiveStream⦄, registry.lookup requestId = some stream →
    stream.handle < registry.handles.length

/-- No handle is told to stop twice, since it is seen to be done the second time. -/
theorem nodup_visit {registry : Registry} {entries : List (String × ActiveStream)}
    (made : ∀ number ∈ handlesOf entries, number < registry.handles.length) :
    (registry.visit entries).Nodup := by
  induction entries generalizing registry with
  | nil => exact List.nodup_nil
  | cons entry rest ih =>
      obtain ⟨requestId, stream⟩ := entry
      have madeRest : ∀ number ∈ handlesOf rest, number < registry.handles.length :=
        fun number inside => made number (List.mem_cons_of_mem _ inside)
      simp only [visit]
      split
      · exact ih madeRest
      · have inside : stream.handle < registry.handles.length := made _ List.mem_cons_self
        refine List.nodup_cons.2 ⟨?_, ih (by simpa using madeRest)⟩
        rw [mem_visit, handle_cancelHandle, if_pos ⟨rfl, inside⟩]
        simp [Handle.isDone]

theorem Sound.of_mem_handlesOf {registry : Registry} (sound : registry.Sound) :
    ∀ number ∈ handlesOf registry.streams.entries, number < registry.handles.length := by
  intro number inside
  obtain ⟨⟨requestId, stream⟩, entered, rfl⟩ := List.mem_map.1 inside
  exact sound ((registry.streams.mem_entries_iff _ _).1 entered)

/-- The order in which a shutdown visits the records does not matter: neither to the flags nor to
the count. -/
theorem Sound.cancelEach_eq {registry : Registry} (sound : registry.Sound)
    {order : List (String × ActiveStream)} (visits : order.Perm registry.streams.entries) :
    cancelEach 0 registry order = registry.cancelAll := by
  have sameHandles : (handlesOf order).Perm (handlesOf registry.streams.entries) :=
    visits.map _
  have counts : (registry.visit order).length =
      (registry.visit registry.streams.entries).length := by
    apply List.Perm.length_eq
    refine (List.perm_ext_iff_of_nodup ?_ (nodup_visit sound.of_mem_handlesOf)).2 fun number => ?_
    · exact nodup_visit fun number inside =>
        sound.of_mem_handlesOf number (sameHandles.mem_iff.1 inside)
    · rw [mem_visit, mem_visit, sameHandles.mem_iff]
  have handles : (cancelEach 0 registry order).2.handles = registry.cancelAll.2.handles := by
    have lengths : (cancelEach 0 registry order).2.handles.length =
        registry.cancelAll.2.handles.length := by
      rw [cancelAll, length_handles_cancelEach, length_handles_cancelEach]
    refine List.ext_getElem lengths fun number inside inside' => ?_
    have flags : (cancelEach 0 registry order).2.handle number =
        registry.cancelAll.2.handle number := by
      simp only [cancelAll, handle_cancelEach, sameHandles.mem_iff]
    simpa [handle, List.getD_eq_getElem?_getD, inside, inside'] using flags
  have streams : (cancelEach 0 registry order).2.streams = registry.cancelAll.2.streams := by
    rw [cancelAll, streams_cancelEach, streams_cancelEach]
  refine Prod.ext ?_ ?_
  · rw [cancelAll, fst_cancelEach, fst_cancelEach, counts]
  · cases after : (cancelEach 0 registry order).2
    cases after' : registry.cancelAll.2
    simp_all

theorem length_handles_serve (registry : Registry) (call : Call count) :
    (registry.serve call).handles.length = registry.handles.length := by
  cases call with
  | register | deregister | lookup => rfl
  | finish target => exact registry.length_handles_finishHandle target
  | cancelAll => exact registry.length_handles_cancelEach 0 _
  | cancelStream requestId caller =>
      rw [serve, cancelStream]
      cases registry.lookup requestId with
      | none => rfl
      | some stream =>
          simp only
          split
          · rfl
          · split
            · rfl
            · exact registry.length_handles_cancelHandle _

/-- No call enters a record without a handle. -/
theorem Sound.serve {registry : Registry} (sound : registry.Sound)
    (made : registry.handles.length = count) (call : Call count) :
    (registry.serve call).Sound := by
  intro requestId stream found
  rw [length_handles_serve]
  cases call with
  | register entered owner target =>
      have found : (registry.streams.insert entered ⟨owner, target⟩).find? requestId =
          some stream := found
      rw [KeyMap.find?_insert] at found
      split at found
      · cases found
        exact Nat.lt_of_lt_of_eq target.isLt made.symm
      · exact sound found
  | deregister removed =>
      have found : (registry.streams.erase removed).find? requestId = some stream := found
      rw [KeyMap.find?_erase] at found
      split at found
      · cases found
      · exact sound found
  | cancelStream named caller =>
      have same : (registry.serve (.cancelStream named caller : Call count)).streams =
          registry.streams := registry.streams_cancelStream named caller
      rw [lookup, same] at found
      exact sound found
  | cancelAll =>
      have same : (registry.serve (.cancelAll : Call count)).streams = registry.streams :=
        registry.streams_cancelEach 0 _
      rw [lookup, same] at found
      exact sound found
  | finish | lookup => exact sound found

/-- The answer to a call reports as many cancellations as there are handles that it is accepted
for. -/
theorem reported_eq_length (registry : Registry) (call : Call count) :
    registry.reported call = (registry.accepted call).length := by
  cases call with
  | register | deregister | finish | lookup => rfl
  | cancelAll =>
      rw [reported, cancelAll, fst_cancelEach, Nat.zero_add]
      rfl
  | cancelStream requestId caller =>
      rw [reported, accepted]
      cases found : registry.lookup requestId with
      | none => simp [cancelStream, found]
      | some stream =>
          cases (registry.cancelStream requestId caller).1 <;> rfl

theorem nodup_accepted {registry : Registry} (sound : registry.Sound) (call : Call count) :
    (registry.accepted call).Nodup := by
  cases call with
  | register | deregister | finish | lookup => exact List.nodup_nil
  | cancelAll => exact nodup_visit sound.of_mem_handlesOf
  | cancelStream requestId caller =>
      rw [accepted]
      split
      · exact List.nodup_cons.2 ⟨List.not_mem_nil, List.nodup_nil⟩
      · exact List.nodup_nil

/-- A call is only accepted for handles that are not done. -/
theorem running_of_mem_accepted {registry : Registry} {call : Call count} {number : Nat}
    (inside : number ∈ registry.accepted call) : (registry.handle number).isDone = false := by
  cases call with
  | register | deregister | finish | lookup => cases inside
  | cancelAll => exact ((registry.mem_visit _ number).1 inside).2
  | cancelStream requestId caller =>
      rw [accepted] at inside
      split at inside
      · next stream found answer =>
        obtain ⟨other, found', -, running⟩ :=
          (registry.cancelStream_eq_cancelled_iff requestId caller).1 answer
        obtain rfl : stream = other := Option.some.inj (found.symm.trans found')
        exact List.mem_singleton.1 inside ▸ running
      · cases inside

/-- A call cancels the handles that it is accepted for, and no other. -/
theorem cancelled_serve_iff {registry : Registry} (sound : registry.Sound) (call : Call count)
    (number : Nat) :
    ((registry.serve call).handle number).cancelled = true ↔
      (registry.handle number).cancelled = true ∨ number ∈ registry.accepted call := by
  cases call with
  | register | deregister | lookup => simp [serve, accepted]
  | finish target =>
      rw [serve, handle_finishHandle]
      split <;> simp [accepted]
  | cancelAll =>
      have flags := registry.handle_cancelEach 0 registry.streams.entries number
      rw [serve, cancelAll, flags, accepted, mem_visit]
      split
      · next told => simp [told.1, told.2.1]
      · next kept =>
        refine ⟨.inl, ?_⟩
        rintro (already | ⟨inside, running⟩)
        · exact already
        · exact absurd ⟨inside, running, sound.of_mem_handlesOf number inside⟩ kept
  | cancelStream requestId caller =>
      by_cases answer : (registry.cancelStream requestId caller).1 = .cancelled
      · obtain ⟨stream, found, -⟩ :=
          (registry.cancelStream_eq_cancelled_iff requestId caller).1 answer
        rw [serve, registry.cancelStream_of_cancelled found answer, handle_cancelHandle]
        simp only [accepted, found, answer, List.mem_singleton]
        split
        · next same => simp [same.1]
        · next other =>
          have made := sound found
          have distinct : number ≠ stream.handle := by
            rintro rfl
            exact other ⟨rfl, made⟩
          simp [distinct]
      · rw [serve, registry.cancelStream_of_not_cancelled answer]
        have none : number ∉ registry.accepted (.cancelStream requestId caller : Call count) := by
          intro inside
          rw [accepted] at inside
          split at inside
          · next answer' => exact answer answer'
          · cases inside
        simp [none]

/-- What a sequence of calls adds to the account: handles that were not cancelled before and are
cancelled behind it, each once. The induction is on the calls, with the account of the rest opened
where the first call has left the registry. -/
theorem ledger_spec {registry : Registry} (sound : registry.Sound)
    (made : registry.handles.length = count) (calls : List (Call count)) :
    (registry.ledger calls).Nodup ∧
      (∀ number ∈ registry.ledger calls, (registry.handle number).cancelled = false) ∧
      (∀ number, ((registry.serveAll calls).handle number).cancelled = true ↔
        (registry.handle number).cancelled = true ∨ number ∈ registry.ledger calls) ∧
      registry.tally calls = (registry.ledger calls).length := by
  induction calls generalizing registry with
  | nil => simp [ledger, serveAll, tally]
  | cons call calls ih =>
      obtain ⟨nodup, quiet, cancelled, total⟩ :=
        ih (sound.serve made call) ((registry.length_handles_serve call).trans made)
      have first := cancelled_serve_iff sound call
      have quietHere (number : Nat) (inside : number ∈ registry.accepted call) :
          (registry.handle number).cancelled = false := by
        have running := running_of_mem_accepted inside
        simp only [Handle.isDone, Bool.or_eq_false_iff] at running
        exact running.2
      refine ⟨?_, ?_, ?_, ?_⟩
      · refine List.nodup_append.2 ⟨nodup_accepted sound call, nodup, ?_⟩
        rintro number inside later again rfl
        have told := (first number).2 (.inr inside)
        rw [quiet number again] at told
        cases told
      · intro number inside
        rcases List.mem_append.1 inside with here | later
        · exact quietHere number here
        · have still := quiet number later
          cases already : (registry.handle number).cancelled with
          | false => rfl
          | true =>
              rw [(first number).2 (.inl already)] at still
              cases still
      · intro number
        rw [ledger, List.mem_append, ← or_assoc, ← first number]
        exact cancelled number
      · rw [tally, ledger, List.length_append, ← reported_eq_length, total]

theorem Sound.serveAll {registry : Registry} (sound : registry.Sound)
    (made : registry.handles.length = count) (calls : List (Call count)) :
    (registry.serveAll calls).Sound := by
  induction calls generalizing registry with
  | nil => exact sound
  | cons call calls ih =>
      exact ih (sound.serve made call) ((registry.length_handles_serve call).trans made)

/-- The handles of a registry that have been cancelled. -/
def cancelledHandles (registry : Registry) : List Nat :=
  (List.range registry.handles.length).filter fun number => (registry.handle number).cancelled

/-- What holds of a registry in which some handles have been accepted for cancellation, and the
answers have reported a number of cancellations. -/
structure Accounted (registry : Registry) (ledger : List Nat) (total : Nat) : Prop where
  /-- A caller is told `cancelled` exactly about a stream of its own that goes on. -/
  answer_iff : ∀ requestId caller,
    (registry.cancelStream requestId caller).1 = .cancelled ↔
      ∃ stream, registry.lookup requestId = some stream ∧ stream.owner = caller ∧
        (registry.handle stream.handle).finished = false ∧
        (registry.handle stream.handle).cancelled = false
  /-- That answer sets one flag, and nothing else changes. -/
  told : ∀ {requestId caller stream}, registry.lookup requestId = some stream →
    (registry.cancelStream requestId caller).1 = .cancelled →
    (registry.cancelStream requestId caller).2.streams = registry.streams ∧
      (registry.cancelStream requestId caller).2.handles.length = registry.handles.length ∧
      ∀ number, (registry.cancelStream requestId caller).2.handle number =
        if number = stream.handle then { registry.handle number with cancelled := true }
        else registry.handle number
  /-- Every other answer changes nothing. -/
  refused : ∀ {requestId caller}, (registry.cancelStream requestId caller).1 ≠ .cancelled →
    (registry.cancelStream requestId caller).2 = registry
  /-- A handle has been accepted once if it is cancelled, and never if it is not. -/
  count_eq : ∀ number,
    ledger.count number = if (registry.handle number).cancelled then 1 else 0
  /-- The answers add up to the number of cancelled handles. -/
  total_eq : total = registry.cancelledHandles.length
  /-- A shutdown does the same whatever order it visits the records in. -/
  shutdown_order : ∀ {order}, order.Perm registry.streams.entries →
    cancelEach 0 registry order = registry.cancelAll
  /-- A shutdown leaves no registered handle that is not done. -/
  shutdown_done : ∀ {requestId stream}, registry.cancelAll.2.lookup requestId = some stream →
    (registry.cancelAll.2.handle stream.handle).isDone = true
  /-- A shutdown leaves the handles alone that have been finished. -/
  shutdown_finished : ∀ {number}, (registry.handle number).finished = true →
    registry.cancelAll.2.handle number = registry.handle number

theorem Sound.told {registry : Registry} (sound : registry.Sound) {requestId caller : String}
    {stream : ActiveStream} (found : registry.lookup requestId = some stream)
    (answer : (registry.cancelStream requestId caller).1 = .cancelled) (number : Nat) :
    (registry.cancelStream requestId caller).2.handle number =
      if number = stream.handle then { registry.handle number with cancelled := true }
      else registry.handle number := by
  rw [registry.cancelStream_of_cancelled found answer, handle_cancelHandle]
  by_cases same : number = stream.handle
  · subst number
    rw [if_pos ⟨rfl, sound found⟩, if_pos rfl]
  · rw [if_neg fun target => same target.1.symm, if_neg same]

theorem Sound.shutdown_done {registry : Registry} (sound : registry.Sound) {requestId : String}
    {stream : ActiveStream} (found : registry.cancelAll.2.lookup requestId = some stream) :
    (registry.cancelAll.2.handle stream.handle).isDone = true := by
  rw [lookup, cancelAll, streams_cancelEach] at found
  have listed : stream.handle ∈ handlesOf registry.streams.entries :=
    List.mem_map.2 ⟨(requestId, stream), (registry.streams.mem_entries_iff _ _).2 found, rfl⟩
  rw [cancelAll, handle_cancelEach]
  split
  · simp [Handle.isDone]
  · next kept =>
    cases running : (registry.handle stream.handle).isDone with
    | true => rfl
    | false => exact absurd ⟨listed, running, sound found⟩ kept

/-- The cancelled handles are those on the ledger. -/
theorem perm_cancelledHandles {registry : Registry} {ledger : List Nat} (nodup : ledger.Nodup)
    (cancelled : ∀ number, (registry.handle number).cancelled = true ↔ number ∈ ledger) :
    ledger.Perm registry.cancelledHandles := by
  refine (List.perm_ext_iff_of_nodup nodup (List.nodup_range.filter _)).2 fun number => ?_
  rw [List.mem_filter, List.mem_range, ← cancelled number]
  refine ⟨fun told => ⟨?_, told⟩, And.right⟩
  -- A handle that nobody made has no flag set.
  apply Nat.lt_of_not_le
  intro beyond
  have blank : registry.handle number = {} := by
    simp [handle, List.getD_eq_getElem?_getD, beyond]
  rw [blank] at told
  cases told

/-- In every run of a registry, cancelling is up to the owner, and every handle is accepted for it
at most once: the accepted handles are the cancelled ones, and the answers of all calls add up to
their number. -/
theorem cancels_at_most_once (count : Nat) (calls : List (Call count)) :
    Accounted ((fresh count).serveAll calls) ((fresh count).ledger calls)
      ((fresh count).tally calls) := by
  have soundFresh : (fresh count).Sound := by
    intro requestId stream found
    simp [lookup, fresh] at found
  have made : (fresh count).handles.length = count := List.length_replicate
  have blank (number : Nat) : (fresh count).handle number = {} := by
    simp only [handle, fresh, List.getD_eq_getElem?_getD, List.getElem?_replicate]
    split <;> rfl
  have sound := soundFresh.serveAll made calls
  obtain ⟨nodup, -, cancelled, total⟩ := ledger_spec soundFresh made calls
  simp only [blank, Bool.false_eq_true, false_or] at cancelled
  generalize (fresh count).serveAll calls = registry at sound cancelled ⊢
  exact {
    answer_iff := by
      intro requestId caller
      rw [cancelStream_eq_cancelled_iff]
      simp only [Handle.isDone, Bool.or_eq_false_iff]
    told := by
      intro requestId caller stream found answer
      refine ⟨registry.streams_cancelStream requestId caller, ?_, sound.told found answer⟩
      rw [registry.cancelStream_of_cancelled found answer, length_handles_cancelHandle]
    refused := registry.cancelStream_of_not_cancelled
    count_eq := by
      intro number
      rw [nodup.count]
      simp only [cancelled number]
    total_eq := total.trans (perm_cancelledHandles nodup cancelled).length_eq
    shutdown_order := sound.cancelEach_eq
    shutdown_done := sound.shutdown_done
    shutdown_finished := by
      intro number finished
      rw [cancelAll, handle_cancelEach, if_neg]
      rintro ⟨-, running, -⟩
      simp [Handle.isDone, finished] at running }

/-- A handle under two identifiers is told to stop once. -/
example :
    let calls : List (Call 1) := [.register "r1" "alice" 0, .register "r2" "bob" 0, .cancelAll]
    ((fresh 1).ledger calls, (fresh 1).tally calls) = ([0], 1) := by
  decide

end TokenRelay.Registry
