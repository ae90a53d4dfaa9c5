import Embed.Decimal
import Embed.Json.Printer
import Embed.Progress
/-!
# The life of an embedded module

A module is unloaded, then loading, then ready, and from any of these it may fail for good. Two
signals make it ready: that its load is complete, and that no dependency is outstanding. Either may
come first, or alone, and what was hidden is revealed once. Each event yields the next state and a
`Transition`, which says what the page has to show of it.
-/

namespace Embed

namespace Lifecycle

/-- Where a module is in its life. -/
inductive State where
  /-- Nothing has happened yet. -/
  | unloaded
  /-- It is loading, and this far. -/
  | loading (percent : Float)
  /-- It runs. -/
  | ready
  /-- It could not be loaded. -/
  | errored (message : String)
  /-- It stopped unexpectedly. -/
  | crashed

/-- Whether a state is never left. -/
def State.isTerminal : State → Bool
  | .errored _ | .crashed => true
  | _ => false

/-- Whether the module runs. -/
def State.isReady : State → Bool
  | .ready => true
  | _ => false

/-- The percentage that a state stands for. -/
def State.percent? : State → Option Float
  | .loading percent => some percent
  | .ready => some completePercent
  | _ => none

/-- A state as a JSON value: its name, and what it carries. -/
def State.toValue : State → Json.Value
  | .unloaded => .object [("state", .string "unloaded")]
  | .loading percent =>
    .object [("state", .string "loading"), ("percent", .number (.double percent))]
  | .ready => .object [("state", .string "ready")]
  | .errored message => .object [("state", .string "errored"), ("message", .string message)]
  | .crashed => .object [("state", .string "crashed")]

/-- What happens to a module. -/
inductive Event where
  /-- Its load begins. -/
  | loadStart
  /-- Its load has come this far. -/
  | progress (sample : Sample)
  /-- Its load is complete. -/
  | load
  /-- This many of its dependencies are outstanding. -/
  | dependencies (remaining : UInt32)
  /-- Its load failed. -/
  | error (message : String)
  /-- It stopped unexpectedly. -/
  | crash

/-- What the page has to show after an event. -/
structure Transition where
  /-- Whether the module went from one kind of state to another. -/
  changed : Bool := false
  /-- The new status line. -/
  status : Option String := none
  /-- The new percentage. -/
  progress : Option Float := none
  /-- Whether canvas and output appear in place of the spinner. -/
  reveal : Bool := false
  /-- Whether only the spinner goes. -/
  hideSpinner : Bool := false

end Lifecycle

/-- The life of a module so far. -/
structure Lifecycle where
  /-- Where it is. -/
  state : Lifecycle.State := .unloaded
  /-- Whether canvas and output have been revealed. -/
  revealed : Bool := false
  /-- Whether the spinner has gone. -/
  spinnerHidden : Bool := false
  /-- Its dependencies. -/
  dependencies : Dependencies := {}
  /-- Why its load failed. -/
  lastError : Option String := none

namespace Lifecycle

/-- Whether the module can be used: it has been revealed, whatever came after. -/
def isUsable (life : Lifecycle) : Bool :=
  life.revealed

/-- The load begins, if nothing has happened yet. -/
def loadStart (life : Lifecycle) : Lifecycle × Transition :=
  match life.state with
  | .unloaded =>
    ({ life with state := .loading 0.0 },
      { changed := true, status := some "Loading...", progress := some 0.0 })
  | _ => (life, {})

/-- The load has come this far. It counts as begun, and nothing is undone by it. -/
def progress (life : Lifecycle) (sample : Sample) : Lifecycle × Transition :=
  let percent := sample.percent
  let next : Lifecycle := { life with state := .loading percent }
  let status := some ("Loading... " ++ Decimal.wholeText percent ++ "%")
  match life.state with
  | .unloaded => (next, { changed := true, status, progress := some percent })
  | .loading _ => (next, { status, progress := some percent })
  | _ => (life, {})

/-- The module runs from now on, under the given status line. -/
def becomeReady (life : Lifecycle) (status : String) : Lifecycle × Transition :=
  let next : Lifecycle := { life with state := .ready, revealed := true, spinnerHidden := true }
  let shown : Transition := { status := some status, reveal := !life.revealed }
  match life.state with
  | .unloaded | .loading _ =>
    (next, { shown with changed := true, progress := some completePercent })
  | .ready => (next, shown)
  | _ => (life, {})

/-- This many dependencies are outstanding. When none is, the module runs; once it runs, only the
count is kept. -/
def outstanding (life : Lifecycle) (remaining : UInt32) : Lifecycle × Transition :=
  let counted : Lifecycle := { life with dependencies := life.dependencies.update remaining }
  let status := counted.dependencies.status
  match life.state with
  | .errored _ | .crashed => (life, {})
  | .ready => (counted, {})
  | .unloaded =>
    if remaining = 0 then counted.becomeReady status
    else ({ counted with state := .loading 0.0 }, { changed := true, status := some status })
  | .loading _ =>
    if remaining = 0 then counted.becomeReady status
    else (counted, { status := some status })

/-- The module is given up, unless it was before. -/
def fail (life : Lifecycle) (state : State) (lastError : Option String) (status : String) :
    Lifecycle × Transition :=
  if life.state.isTerminal then (life, {})
  else
    ({ life with state, lastError, spinnerHidden := true },
      { changed := true, status := some status, hideSpinner := !life.spinnerHidden })

/-- What an event does. -/
def step (life : Lifecycle) : Event → Lifecycle × Transition
  | .loadStart => life.loadStart
  | .progress sample => life.progress sample
  | .load => life.becomeReady "Running"
  | .dependencies remaining => life.outstanding remaining
  | .error message =>
    life.fail (.errored message) (some message) ("ERROR [" ++ message ++ "]")
  | .crash => life.fail .crashed life.lastError "CRASHED: the module stopped unexpectedly"

end Lifecycle

end Embed
