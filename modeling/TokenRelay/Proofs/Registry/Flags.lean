/-
# Flags of handles

Supplies what the operations of the registry do to the flags of every handle. Flags are only ever
set. Cancelling a stream sets one flag of one handle or changes nothing, and cancelling all streams
sets that flag for every handle that is registered and not done.
-/

import TokenRelay.Registry.Basic

namespace TokenRelay.Registry

variable (registry : Registry)

/-- A handle that is added has no flag set, like one that nobody made. -/
@[simp]
theorem handle_addHandle (number : Nat) :
    registry.addHandle.handle number = registry.handle number := by
  simp only [handle, addHandle, List.getD_eq_getElem?_getD]
  by_cases old : number < registry.handles.length
  · rw [List.getElem?_append_left old]
  · rw [List.getElem?_append_right (Nat.le_of_not_lt old),
      List.getElem?_eq_none (Nat.le_of_not_lt old)]
    cases number - registry.handles.length <;> rfl

@[simp]
theorem handle_register (requestId owner : String) (target number : Nat) :
    (registry.register requestId owner target).handle number = registry.handle number := rfl

@[simp]
theorem handle_deregister (requestId : String) (number : Nat) :
    (registry.deregister requestId).handle number = registry.handle number := rfl

/-- Changing the flags of one handle leaves every other handle alone. -/
private theorem getD_modify (handles : List Handle) (change : Handle → Handle)
    (target number : Nat) :
    (handles.modify target change).getD number {} =
      if target = number ∧ number < handles.length then change (handles.getD number {})
      else handles.getD number {} := by
  simp only [List.getD_eq_getElem?_getD, List.getElem?_modify]
  by_cases inside : number < handles.length
  · by_cases same : target = number
    · simp [same, inside]
    · simp [same]
  · simp [inside]

theorem handle_cancelHandle (target number : Nat) :
    (registry.cancelHandle target).handle number =
      if target = number ∧ number < registry.handles.length then
        { registry.handle number with cancelled := true }
      else registry.handle number :=
  getD_modify registry.handles _ target number

theorem handle_finishHandle (target number : Nat) :
    (registry.finishHandle target).handle number =
      if target = number ∧ number < registry.handles.length then
        { registry.handle number with finished := true }
      else registry.handle number :=
  getD_modify registry.handles _ target number

@[simp]
theorem length_handles_cancelHandle (target : Nat) :
    (registry.cancelHandle target).handles.length = registry.handles.length := by
  simp [cancelHandle]

@[simp]
theorem length_handles_finishHandle (target : Nat) :
    (registry.finishHandle target).handles.length = registry.handles.length := by
  simp [finishHandle]

/-- A caller is told that a stream has been cancelled exactly if the stream is registered, belongs
to the caller, and is not done. -/
theorem cancelStream_eq_cancelled_iff (requestId caller : String) :
    (registry.cancelStream requestId caller).1 = .cancelled ↔
      ∃ stream, registry.lookup requestId = some stream ∧ stream.owner = caller ∧
        (registry.handle stream.handle).isDone = false := by
  unfold cancelStream
  cases registry.lookup requestId with
  | none => simp
  | some stream =>
      by_cases owned : stream.owner = caller
      · by_cases done : (registry.handle stream.handle).isDone = true
        · simp [owned, done]
        · simp [owned, done]
      · simp [owned]

/-- A stream that is cancelled has its handle told so. -/
theorem cancelStream_of_cancelled {requestId caller : String} {stream : ActiveStream}
    (found : registry.lookup requestId = some stream)
    (accepted : (registry.cancelStream requestId caller).1 = .cancelled) :
    (registry.cancelStream requestId caller).2 = registry.cancelHandle stream.handle := by
  obtain ⟨other, foundOther, owned, running⟩ :=
    (registry.cancelStream_eq_cancelled_iff requestId caller).1 accepted
  obtain rfl : stream = other := Option.some.inj (found.symm.trans foundOther)
  simp [cancelStream, found, owned, running]

/-- Any other answer changes nothing. -/
theorem cancelStream_of_not_cancelled {requestId caller : String}
    (refused : (registry.cancelStream requestId caller).1 ≠ .cancelled) :
    (registry.cancelStream requestId caller).2 = registry := by
  unfold cancelStream at refused ⊢
  cases found : registry.lookup requestId with
  | none => rfl
  | some stream =>
      by_cases owned : stream.owner = caller
      · by_cases done : (registry.handle stream.handle).isDone = true
        · simp [owned, done]
        · simp [found, owned, done] at refused
      · simp [owned]

/-- Cancelling takes no record away. -/
theorem streams_cancelStream (requestId caller : String) :
    (registry.cancelStream requestId caller).2.streams = registry.streams := by
  unfold cancelStream
  split
  · rfl
  · split
    · rfl
    · split <;> rfl

/-- Cancelling the streams of a list leaves the records alone. -/
theorem streams_cancelEach (count : Nat) (entries : List (String × ActiveStream)) :
    (cancelEach count registry entries).2.streams = registry.streams := by
  induction entries generalizing count registry with
  | nil => rfl
  | cons entry rest ih =>
      simp only [cancelEach]
      split
      · exact ih registry count
      · exact ih (registry.cancelHandle entry.2.handle) (count + 1)

theorem length_handles_cancelEach (count : Nat) (entries : List (String × ActiveStream)) :
    (cancelEach count registry entries).2.handles.length = registry.handles.length := by
  induction entries generalizing count registry with
  | nil => rfl
  | cons entry rest ih =>
      simp only [cancelEach]
      split
      · exact ih registry count
      · rw [ih, length_handles_cancelHandle]

/-- The handles of a list of records. -/
def handlesOf (entries : List (String × ActiveStream)) : List Nat :=
  entries.map fun entry => entry.2.handle

/-- Cancelling the streams of a list sets the flag of every handle in it that is not done, and of
no other. -/
theorem handle_cancelEach (count : Nat) (entries : List (String × ActiveStream)) (number : Nat) :
    (cancelEach count registry entries).2.handle number =
      if number ∈ handlesOf entries ∧ (registry.handle number).isDone = false ∧
          number < registry.handles.length then
        { registry.handle number with cancelled := true }
      else registry.handle number := by
  induction entries generalizing count registry with
  | nil => simp [cancelEach, handlesOf]
  | cons entry rest ih =>
      obtain ⟨requestId, stream⟩ := entry
      have listed : number ∈ handlesOf ((requestId, stream) :: rest) ↔
          stream.handle = number ∨ number ∈ handlesOf rest := by
        simp [handlesOf, eq_comm]
      simp only [cancelEach, listed]
      by_cases same : stream.handle = number
      · subst same
        by_cases done : (registry.handle stream.handle).isDone = true
        · rw [if_pos done, ih]
          simp [done]
        · have told : ({ registry.handle stream.handle with cancelled := true } : Handle).isDone =
              true := by
            simp [Handle.isDone]
          rw [if_neg done, ih, handle_cancelHandle, length_handles_cancelHandle]
          by_cases made : stream.handle < registry.handles.length
          · simp [done, made, told]
          · simp [made]
      · have other : (registry.cancelHandle stream.handle).handle number =
            registry.handle number := by
          simp [handle_cancelHandle, same]
        split
        · rw [ih]
          simp [same]
        · rw [ih, other, length_handles_cancelHandle]
          simp [same]

/-- If no handle is registered twice, cancelling the streams of a list counts those that are not
done. -/
theorem count_cancelEach (count : Nat) (entries : List (String × ActiveStream))
    (distinct : (handlesOf entries).Nodup) :
    (cancelEach count registry entries).1 =
      count + (entries.filter fun entry => !(registry.handle entry.2.handle).isDone).length := by
  induction entries generalizing count registry with
  | nil => simp [cancelEach]
  | cons entry rest ih =>
      obtain ⟨requestId, stream⟩ := entry
      obtain ⟨absent, restDistinct⟩ := List.nodup_cons.1 distinct
      by_cases done : (registry.handle stream.handle).isDone = true
      · simp only [cancelEach, if_pos done]
        rw [ih registry count restDistinct, List.filter_cons_of_neg (by simpa using done)]
      · simp only [cancelEach, if_neg done]
        rw [ih _ _ restDistinct, List.filter_cons_of_pos (by simpa using done)]
        -- The head's flag is not looked at again, because no other entry has its handle.
        have unchanged : (rest.filter fun entry =>
              !((registry.cancelHandle stream.handle).handle entry.2.handle).isDone) =
            rest.filter fun entry => !(registry.handle entry.2.handle).isDone := by
          apply List.filter_congr
          intro entry inside
          have other : stream.handle ≠ entry.2.handle := by
            intro same
            exact absent (List.mem_map.2 ⟨entry, inside, same.symm⟩)
          simp [handle_cancelHandle, other]
        rw [unchanged, List.length_cons]
        omega

end TokenRelay.Registry
