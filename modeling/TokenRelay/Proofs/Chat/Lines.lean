/-
# Lines and events of a chat stream

Supplies that taking a text in event by event is taking in its lines. An event ends where a line
ends, so the lines of a text are those of its events and of what is left behind them, but for empty
ones; and a line that is skipped changes nothing. So up to the first error a reading depends on the
lines that are not skipped and on nothing else.
-/

import TokenRelay.Chat.Stream

namespace TokenRelay.Chat

namespace Line

/-- The pieces of the answer that a line brings. -/
def pieces : Line → List String
  | .delta pieces _ => pieces
  | .skipped | .done | .failure _ => []

/-- The token counts that a line brings. -/
def usage : Line → Option Usage
  | .delta _ usage => usage
  | .skipped | .done | .failure _ => none

/-- The token counts known after some lines: those of the last line that brings any. -/
def lastUsage (known : Option Usage) (lines : List Line) : Option Usage :=
  lines.foldl (fun known line => line.usage.or known) known

/-- The lines of a text that are not skipped. -/
def telling (text : List Char) : List Line :=
  (ofText text).filter (· ≠ .skipped)

/-- The lines before the first error, and the message of that error. -/
def upToError : List Line → List Line × Option String
  | [] => ([], none)
  | .failure message :: _ => ([], some message)
  | line :: rest => (line :: (upToError rest).1, (upToError rest).2)

theorem lastUsage_append (known : Option Usage) (first second : List Line) :
    lastUsage known (first ++ second) = lastUsage (lastUsage known first) second :=
  List.foldl_append

theorem upToError_append {first : List Line} (second : List Line)
    (sound : ∀ message, .failure message ∉ first) :
    upToError (first ++ second) = (first ++ (upToError second).1, (upToError second).2) := by
  induction first with
  | nil => rfl
  | cons line first ih =>
      have rest := ih fun message inside => sound message (.tail _ inside)
      cases line with
      | failure message => exact absurd (.head _) (sound message)
      | skipped | done | delta => simp [upToError, rest]

theorem upToError_sound {lines : List Line} (sound : ∀ message, .failure message ∉ lines) :
    upToError lines = (lines, none) := by
  simpa [upToError] using upToError_append [] sound

/-- What stands behind the first error does not matter. -/
theorem upToError_failing {front : List Line} (message : String) (back : List Line)
    (sound : ∀ message, .failure message ∉ front) :
    upToError (front ++ .failure message :: back) = (front, some message) := by
  simpa [upToError] using upToError_append (.failure message :: back) sound

/-- Lines have no error, or a first one. -/
theorem sound_or_failing (lines : List Line) :
    (∀ message, .failure message ∉ lines) ∨
      ∃ front message back, lines = front ++ .failure message :: back ∧
        ∀ message, .failure message ∉ front := by
  induction lines with
  | nil => exact .inl fun _ => List.not_mem_nil
  | cons line lines ih =>
      by_cases here : ∃ message, line = .failure message
      · obtain ⟨message, rfl⟩ := here
        exact .inr ⟨[], message, lines, rfl, fun _ => List.not_mem_nil⟩
      · have apart (message : String) : .failure message ≠ line := fun same =>
          here ⟨message, same.symm⟩
        rcases ih with sound | ⟨front, message, back, rfl, sound⟩
        · exact .inl fun message => by simp [apart, sound]
        · exact .inr ⟨line :: front, message, back, rfl, fun message => by simp [apart, sound]⟩

theorem sound_of_upToError {lines : List Line} (error : (upToError lines).2 = none) :
    ∀ message, .failure message ∉ lines := by
  rcases sound_or_failing lines with sound | ⟨front, message, back, rfl, sound⟩
  · exact sound
  · rw [upToError_failing _ _ sound] at error
    cases error

/-- Lines end at newlines. -/
theorem splitFrom_append (line first second : List Char) :
    splitFrom line (first ++ '\n' :: second) = splitFrom line first ++ splitFrom [] second := by
  induction first generalizing line with
  | nil => simp [splitFrom]
  | cons character rest ih =>
      by_cases newline : character = '\n'
      · simp [splitFrom, newline, ih]
      · simp [splitFrom, newline, ih]

theorem telling_append (first second : List Char) :
    telling (first ++ '\n' :: second) = telling first ++ telling second := by
  simp [telling, ofText, splitFrom_append]

theorem telling_nil : telling [] = [] := rfl

/-- Lines that are skipped bring nothing. -/
theorem pieces_filter (lines : List Line) :
    (lines.filter (· ≠ .skipped)).flatMap pieces = lines.flatMap pieces := by
  induction lines with
  | nil => rfl
  | cons line lines ih => cases line <;> simpa [pieces] using ih

theorem lastUsage_filter (known : Option Usage) (lines : List Line) :
    lastUsage known (lines.filter (· ≠ .skipped)) = lastUsage known lines := by
  induction lines generalizing known with
  | nil => rfl
  | cons line lines ih => cases line <;> simpa [lastUsage, usage] using ih _

/-- A text that ends with a newline can be taken apart from what follows. -/
theorem telling_closed_append (body rest : List Char) :
    telling (body ++ ['\n'] ++ rest) = telling (body ++ ['\n']) ++ telling rest := by
  rw [List.append_assoc, List.singleton_append, telling_append, telling_append, telling_nil,
    List.append_nil]

/-- So can several texts of which each ends with a newline. -/
theorem telling_flatten_append {texts : List (List Char)} (rest : List Char)
    (closed : ∀ text ∈ texts, ∃ body, text = body ++ ['\n']) :
    telling (texts.flatten ++ rest) = texts.flatMap telling ++ telling rest := by
  induction texts with
  | nil => rfl
  | cons text texts ih =>
      obtain ⟨body, rfl⟩ := closed text (.head _)
      have later := ih fun text inside => closed text (.tail _ inside)
      rw [List.flatten_cons, List.append_assoc, telling_closed_append, later, List.flatMap_cons,
        List.append_assoc]

end Line

namespace Reading

/-- Cutting a text takes nothing away, and every event ends with a newline. -/
theorem cutFrom_spec (event text : List Char) :
    (cutFrom event text).1.flatten ++ (cutFrom event text).2 = event.reverse ++ text ∧
      ∀ complete ∈ (cutFrom event text).1, ∃ body, complete = body ++ ['\n'] := by
  induction event, text using cutFrom.induct with
  | case1 event => simp [cutFrom]
  | case2 event rest events tail cut ih =>
      rw [cut] at ih
      obtain ⟨whole, closed⟩ := ih
      simp only [cutFrom, cut, List.flatten_cons]
      constructor
      · rw [List.append_assoc, whole]
        simp
      · intro complete inside
        rcases List.mem_cons.1 inside with rfl | later
        · exact ⟨event.reverse ++ ['\n'], by simp⟩
        · exact closed complete later
  | case3 event character rest alone ih =>
      rw [cutFrom]
      · simpa using ih
      · exact alone

/-- The reading after some lines, none of them an error. -/
def after (reading : Reading) (lines : List Line) : Reading :=
  { reading with
    pending := reading.pending ++ lines.flatMap Line.pieces
    usage := Line.lastUsage reading.usage lines
    done := reading.done || lines.contains .done }

theorem after_nil (reading : Reading) : reading.after [] = reading := by
  simp [after, Line.lastUsage]

theorem after_append (reading : Reading) (first second : List Line) :
    reading.after (first ++ second) = (reading.after first).after second := by
  simp [after, Line.lastUsage_append, Bool.or_assoc]

/-- Lines are taken in up to the first error, and those that are skipped do not matter. -/
theorem absorb_eq (reading : Reading) (lines : List Line) :
    reading.absorb lines =
      (reading.after (Line.upToError (lines.filter (· ≠ .skipped))).1,
        (Line.upToError (lines.filter (· ≠ .skipped))).2) := by
  induction lines generalizing reading with
  | nil => simp [absorb, Line.upToError, after_nil]
  | cons line lines ih =>
      cases line with
      | skipped => simpa [absorb] using ih reading
      | done =>
          rw [absorb, ih]
          simp [after, Line.upToError, Line.lastUsage, Line.pieces, Line.usage]
      | failure message => simp [absorb, Line.upToError, after_nil]
      | delta pieces usage =>
          rw [absorb, ih]
          simp [after, Line.upToError, Line.lastUsage, Line.pieces, Line.usage]

/-- So are the lines of events. Without an error only the text behind the events is left. -/
theorem absorbEvents_eq (reading : Reading) (tail : List Char) (events : List (List Char)) :
    ∃ buffer,
      reading.absorbEvents tail events =
        ({ reading.after (Line.upToError (events.flatMap Line.telling)).1 with buffer },
          (Line.upToError (events.flatMap Line.telling)).2) ∧
      ((Line.upToError (events.flatMap Line.telling)).2 = none → buffer = tail) := by
  induction events generalizing reading with
  | nil => exact ⟨tail, by simp [absorbEvents, Line.upToError, after_nil], fun _ => rfl⟩
  | cons event events ih =>
      have taken : reading.absorb (Line.ofText event) =
          (reading.after (Line.upToError (Line.telling event)).1,
            (Line.upToError (Line.telling event)).2) := reading.absorb_eq _
      rw [absorbEvents, taken, List.flatMap_cons]
      rcases Line.sound_or_failing (Line.telling event) with
        sound | ⟨front, message, back, lines, sound⟩
      · obtain ⟨buffer, absorbed, left⟩ := ih (reading.after (Line.telling event))
        rw [Line.upToError_append _ sound, Line.upToError_sound sound, after_append]
        exact ⟨buffer, absorbed, left⟩
      · rw [lines, List.append_assoc, List.cons_append, Line.upToError_failing _ _ sound,
          Line.upToError_failing _ _ sound]
        exact ⟨_, rfl, nofun⟩

end Reading

end TokenRelay.Chat
