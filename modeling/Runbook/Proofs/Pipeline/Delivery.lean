import Runbook.Pipeline.Sink

/-! # What a sink is asked to print

* **`Sink.attempts`** — the attempts that printing messages takes: one for each, and one more without
  the style for a message whose style was rejected.
* **`Sink.deliverAll_attempts`** — a delivery of diagnostics consists of these attempts.
* **`Event.ChangesLog`** — changes of events that neither the attempts nor the calls show.
* **`Sink.recorded`** — a sink that keeps a record of what it is asked to print; the record is that
  of the events (`Sink.deliverAll_recorded`). -/

namespace Runbook

namespace Event

@[simp] theorem prints_nil : prints [] = [] := rfl

@[simp] theorem calls_nil : calls [] = [] := rfl

@[simp] theorem prints_append (first second : List Event) :
    prints (first ++ second) = prints first ++ prints second :=
  List.filterMap_append

@[simp] theorem calls_append (first second : List Event) :
    calls (first ++ second) = calls first ++ calls second :=
  List.filterMap_append

@[simp] theorem prints_cons_print (message : String) (style : Option String) (rest : List Event) :
    prints (.print message style :: rest) = (message, style) :: prints rest := rfl

@[simp] theorem prints_cons_call (operation : String) (parameters : Fields) (rest : List Event) :
    prints (.call operation parameters :: rest) = prints rest := rfl

@[simp] theorem prints_cons_log (entry : LogEntry) (rest : List Event) :
    prints (.log entry :: rest) = prints rest := rfl

@[simp] theorem calls_cons_print (message : String) (style : Option String) (rest : List Event) :
    calls (.print message style :: rest) = calls rest := rfl

@[simp] theorem calls_cons_call (operation : String) (parameters : Fields) (rest : List Event) :
    calls (.call operation parameters :: rest) = (operation, parameters) :: calls rest := rfl

@[simp] theorem calls_cons_log (entry : LogEntry) (rest : List Event) :
    calls (.log entry :: rest) = calls rest := rfl

/-- The events of attempts to print are these attempts. -/
@[simp] theorem prints_map_print (attempts : List (String × Option String)) :
    prints (attempts.map fun attempt => .print attempt.1 attempt.2) = attempts := by
  induction attempts with
  | nil => rfl
  | cons attempt rest ih => rw [List.map_cons, prints_cons_print, ih]

/-- Entries of the log are no attempts to print. -/
@[simp] theorem prints_map_log {α : Type} (entry : α → LogEntry) (items : List α) :
    prints (items.map fun item => .log (entry item)) = [] := by
  induction items with
  | nil => rfl
  | cons item rest ih => rw [List.map_cons, prints_cons_log, ih]

/-- Attempts to print are no calls. -/
@[simp] theorem calls_map_print (attempts : List (String × Option String)) :
    calls (attempts.map fun attempt => .print attempt.1 attempt.2) = [] := by
  induction attempts with
  | nil => rfl
  | cons attempt rest ih => rw [List.map_cons, calls_cons_print, ih]

/-- Entries of the log are no calls. -/
@[simp] theorem calls_map_log {α : Type} (entry : α → LogEntry) (items : List α) :
    calls (items.map fun item => .log (entry item)) = [] := by
  induction items with
  | nil => rfl
  | cons item rest ih => rw [List.map_cons, calls_cons_log, ih]

/-- **A change of events that touches entries of the log only.** -/
def ChangesLog (change : Event → Event) : Prop :=
  ∀ event, change event = event ∨ ∃ entry other, event = .log entry ∧ change event = .log other

/-- What does not look into the log sees no change there. -/
theorem ChangesLog.filterMap_map {α : Type} {change : Event → Event} (h : ChangesLog change)
    {f : Event → Option α} (hf : ∀ entry other, f (.log entry) = f (.log other))
    (events : List Event) : (events.map change).filterMap f = events.filterMap f := by
  rw [List.filterMap_map]
  congr 1
  funext event
  rw [Function.comp_apply]
  rcases h event with hsame | ⟨entry, other, rfl, hlog⟩
  · rw [hsame]
  · rw [hlog]
    exact hf other entry

theorem ChangesLog.prints_map {change : Event → Event} (h : ChangesLog change)
    (events : List Event) : prints (events.map change) = prints events :=
  h.filterMap_map (fun _ _ => rfl) events

theorem ChangesLog.calls_map {change : Event → Event} (h : ChangesLog change)
    (events : List Event) : calls (events.map change) = calls events :=
  h.filterMap_map (fun _ _ => rfl) events

end Event

namespace Sink

variable {κ : Type} (sink : Sink κ)

/-! ## Attempts -/

/-- The attempts to print a message: one in its style, and one more without style exactly if it has
a style and the first was rejected. -/
def attempt (message : String) (style : Option String) (state : κ) :
    List (String × Option String) × κ :=
  match sink.print message style state, style with
  | (.error _, after), some _ =>
    ([(message, style), (message, none)], (sink.print message none after).2)
  | (_, after), _ => ([(message, style)], after)

/-- The attempts to print messages, one after another. -/
def attempts : List (String × Option String) → κ → List (String × Option String) × κ
  | [], state => ([], state)
  | (message, style) :: rest, state =>
    let first := sink.attempt message style state
    let more := attempts rest first.2
    (first.1 ++ more.1, more.2)

/-- The attempts for a list of messages are those for its two parts, one after the other. -/
theorem attempts_append (first second : List (String × Option String)) (state : κ) :
    sink.attempts (first ++ second) state =
      ((sink.attempts first state).1 ++ (sink.attempts second (sink.attempts first state).2).1,
        (sink.attempts second (sink.attempts first state).2).2) := by
  induction first generalizing state with
  | nil => rfl
  | cons message rest ih => simp only [List.cons_append, attempts, ih, List.append_assoc]

/-- A delivery makes the attempts for its message, and all else that it does is to log. -/
theorem exists_deliver_eq (message : String) (style : Option String) (state : κ) :
    ∃ entries : List LogEntry, sink.deliver message style state =
      ((sink.attempt message style state).1.map (fun attempt => .print attempt.1 attempt.2) ++
        entries.map fun entry => .log entry, (sink.attempt message style state).2) := by
  rcases hfirst : sink.print message style state with ⟨e | ⟨⟩, after⟩
  · cases style with
    | none => exact ⟨[.messageDropped e message], by simp [deliver, attempt, hfirst]⟩
    | some style =>
      rcases hsecond : sink.print message none after with ⟨e' | ⟨⟩, final⟩
      · exact ⟨[.messageDropped e' message], by simp [deliver, attempt, hfirst, hsecond]⟩
      · exact ⟨[], by simp [deliver, attempt, hfirst, hsecond]⟩
  · exact ⟨[], by simp [deliver, attempt, hfirst]⟩

/-- **A delivery consists of the attempts for its message.** -/
theorem deliver_attempt (message : String) (style : Option String) (state : κ) :
    (Event.prints (sink.deliver message style state).1, (sink.deliver message style state).2) =
      sink.attempt message style state := by
  obtain ⟨entries, hdeliver⟩ := sink.exists_deliver_eq message style state
  rw [hdeliver, Event.prints_append, Event.prints_map_print, Event.prints_map_log fun entry => entry,
    List.append_nil]

/-- A delivery calls no operation. -/
@[simp] theorem calls_deliver (message : String) (style : Option String) (state : κ) :
    Event.calls (sink.deliver message style state).1 = [] := by
  obtain ⟨entries, hdeliver⟩ := sink.exists_deliver_eq message style state
  rw [hdeliver, Event.calls_append, Event.calls_map_print, Event.calls_map_log fun entry => entry,
    List.append_nil]

/-- The message and the style of a diagnostic. -/
def message (diagnostic : Diagnostic) : String × Option String :=
  (diagnostic.message, diagnostic.style)

/-- **A delivery of diagnostics consists of the attempts for them**, in their order. -/
theorem deliverAll_attempts (diagnostics : List Diagnostic) (state : κ) :
    (Event.prints (sink.deliverAll diagnostics state).1, (sink.deliverAll diagnostics state).2) =
      sink.attempts (diagnostics.map message) state := by
  induction diagnostics generalizing state with
  | nil => rfl
  | cons diagnostic rest ih =>
    rw [List.map_cons, message, attempts, ← deliver_attempt, ← ih, deliverAll]
    simp only [Event.prints_append]

@[simp] theorem calls_deliverAll (diagnostics : List Diagnostic) (state : κ) :
    Event.calls (sink.deliverAll diagnostics state).1 = [] := by
  induction diagnostics generalizing state with
  | nil => rfl
  | cons diagnostic rest ih =>
    rw [deliverAll]
    simp only [Event.calls_append, calls_deliver, ih, List.append_nil]

/-! ## Sinks with a record -/

/-- The sink with a record beside it of everything that it is asked to print. -/
def recorded : Sink (κ × List (String × Option String)) where
  print message style state :=
    let answer := sink.print message style state.1
    (answer.1, answer.2, state.2 ++ [(message, style)])

/-- **The record of a delivery holds the attempts among its events.** -/
theorem deliver_recorded (message : String) (style : Option String) (state : κ)
    (record : List (String × Option String)) :
    sink.recorded.deliver message style (state, record) =
      ((sink.deliver message style state).1, (sink.deliver message style state).2,
        record ++ Event.prints (sink.deliver message style state).1) := by
  rcases hfirst : sink.print message style state with ⟨e | ⟨⟩, after⟩
  · cases style with
    | none => simp [deliver, recorded, hfirst]
    | some style =>
      rcases hsecond : sink.print message none after with ⟨e' | ⟨⟩, final⟩ <;>
        simp [deliver, recorded, hfirst, hsecond]
  · simp [deliver, recorded, hfirst]

theorem deliverAll_recorded (diagnostics : List Diagnostic) (state : κ)
    (record : List (String × Option String)) :
    sink.recorded.deliverAll diagnostics (state, record) =
      ((sink.deliverAll diagnostics state).1, (sink.deliverAll diagnostics state).2,
        record ++ Event.prints (sink.deliverAll diagnostics state).1) := by
  induction diagnostics generalizing state record with
  | nil => simp [deliverAll]
  | cons diagnostic rest ih =>
    rw [deliverAll, deliverAll, deliver_recorded]
    simp only [ih, Event.prints_append, List.append_assoc]

end Sink

end Runbook
