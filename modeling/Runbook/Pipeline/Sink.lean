import Runbook.Pipeline.Event

/-! # Sinks

Messages of a run go to a sink, which may reject them: because it does not know a style, or
altogether. A sink may behave differently from call to call, according to a state of its own.

* **`Sink`** — takes a message, perhaps with a style.
* **`Sink.deliver`** — prints a message, once more without its style if that was rejected. -/

namespace Runbook

/-- Where messages go; `κ` is what a sink remembers. -/
structure Sink (κ : Type) where
  /-- Takes a message, or says why not. -/
  print : (message : String) → (style : Option String) → κ → Except String Unit × κ

namespace Sink

variable {κ : Type}

/-- Prints a message, and once more without its style if the sink rejects the style. A message that
the sink rejects for good is dropped. -/
def deliver (sink : Sink κ) (message : String) (style : Option String) (state : κ) :
    List Event × κ :=
  match sink.print message style state with
  | (.ok (), state) => ([.print message style], state)
  | (.error e, state) =>
    match style with
    | none => ([.print message none, .log (.messageDropped e message)], state)
    | some style =>
      match sink.print message none state with
      | (.ok (), state) => ([.print message (some style), .print message none], state)
      | (.error e, state) =>
        ([.print message (some style), .print message none, .log (.messageDropped e message)],
          state)

/-- Prints diagnostics, one after another. -/
def deliverAll (sink : Sink κ) : List Diagnostic → κ → List Event × κ
  | [], state => ([], state)
  | diagnostic :: rest, state =>
    let (events, state) := sink.deliver diagnostic.message diagnostic.style state
    let (more, state) := sink.deliverAll rest state
    (events ++ more, state)

end Sink

end Runbook
