import Embed.Proofs.Independence
/-!
# What one event does to a module's life

An event in the life of a module does one of five things: it comes too late, it is counted at most,
or the module loads on, starts to run, or fails. `Move` says of each when it can be, what becomes of
the life, and what the page has to show of it, and `step_moves` that there is nothing else; every
law of a life over a run comes from these five. A recording hears of its module's life through
events and through the status lines of a runtime, and a status line that reports progress is an
event of progress, so the same laws hold along its runs.
-/

namespace Embed

/-- The dependencies after an event, which may have named them. -/
def Dependencies.heed (dependencies : Dependencies) : Lifecycle.Event → Dependencies
  | .dependencies remaining => dependencies.update remaining
  | _ => dependencies

namespace Lifecycle

/-- Whether the module is still waited for: it neither runs nor has failed. -/
def State.isWaiting : State → Bool
  | .unloaded | .loading _ => true
  | _ => false

/-- Why a load failed. -/
def State.message? : State → Option String
  | .errored message => some message
  | _ => none

namespace State

variable {state : State}

/-- Only one state is that of a module that runs. -/
theorem isReady_iff : state.isReady = true ↔ state = .ready := by
  cases state <;> simp [isReady]

/-- A module that is waited for has not failed. -/
theorem alive_of_waiting (waiting : state.isWaiting = true) : state.isTerminal = false := by
  cases state with
  | unloaded | loading => rfl
  | ready | errored | crashed => contradiction

/-- A module that has not failed and does not run is waited for. -/
theorem waiting_of_alive (alive : state.isTerminal = false) (idle : state.isReady = false) :
    state.isWaiting = true := by
  cases state with
  | unloaded | loading => rfl
  | ready | errored | crashed => contradiction

/-- A module that has failed is no longer waited for. -/
theorem not_waiting_of_terminal (terminal : state.isTerminal = true) : state.isWaiting = false := by
  cases state with
  | errored | crashed => rfl
  | unloaded | loading | ready => contradiction

/-- A module that has failed does not run. -/
theorem not_ready_of_terminal (terminal : state.isTerminal = true) : state.isReady = false := by
  cases state with
  | errored | crashed => rfl
  | unloaded | loading | ready => contradiction

/-- Nothing says why a load failed that has not. -/
theorem message?_of_alive (alive : state.isTerminal = false) : state.message? = none := by
  cases state with
  | unloaded | loading | ready => rfl
  | errored | crashed => contradiction

/-- What says why a load failed names the state. -/
theorem message?_eq_some_iff {message : String} :
    state.message? = some message ↔ state = .errored message := by
  cases state <;> simp [message?]

end State

/-- A life in which an event has been counted, if it named dependencies. -/
def counted (life : Lifecycle) (event : Event) : Lifecycle :=
  { life with dependencies := life.dependencies.heed event }

/-- The life of a module that starts to run. -/
def running (life : Lifecycle) : Lifecycle :=
  { life with state := .ready, revealed := true, spinnerHidden := true }

/-- What the page has to show when a module starts to run, or is said to once more. -/
def revelation (life : Lifecycle) (status : String) : Transition :=
  { changed := life.state.isWaiting
    status := some status
    progress := if life.state.isWaiting then some completePercent else none
    reveal := !life.revealed }

/-- A module that has not failed runs when it is to. -/
theorem becomeReady_of_alive (life : Lifecycle) (alive : life.state.isTerminal = false)
    (status : String) : life.becomeReady status = (life.running, life.revelation status) := by
  obtain ⟨state, revealed, spinnerHidden, dependencies, lastError⟩ := life
  cases state with
  | unloaded | loading | ready => rfl
  | errored | crashed => contradiction

/-- What an event can do to a life, and what the page has to show of it. -/
inductive Move (life : Lifecycle) (event : Event) : Lifecycle → Transition → Prop
  /-- Nothing happens to a module that has failed. -/
  | late (terminal : life.state.isTerminal = true) : Move life event life {}
  /-- The event is counted at most. -/
  | idle (alive : life.state.isTerminal = false) : Move life event (life.counted event) {}
  /-- A module that is waited for loads on. -/
  | loads (waiting : life.state.isWaiting = true) (percent : Float) (changed : Bool)
      (status : String) (progress : Option Float) :
      Move life event { life.counted event with state := .loading percent }
        { changed, status := some status, progress }
  /-- A module that has not failed runs. -/
  | runs (alive : life.state.isTerminal = false) (status : String) :
      Move life event (life.counted event).running (life.revelation status)
  /-- A module that has not failed fails. -/
  | fails (alive : life.state.isTerminal = false) {failure : Failure}
      (reports : Session.failureOf event = some failure) (state : State)
      (terminal : state.isTerminal = true) (status : String) :
      Move life event
        { life with
          state
          lastError := state.message?.or life.lastError
          spinnerHidden := true }
        { changed := true, status := some status, hideSpinner := !life.spinnerHidden }

/-- Every event makes one of the moves. -/
theorem step_moves (life : Lifecycle) (event : Event) :
    Move life event (life.step event).1 (life.step event).2 := by
  obtain ⟨state, revealed, spinnerHidden, dependencies, lastError⟩ := life
  cases event with
  | loadStart =>
    cases state with
    | unloaded => exact .loads rfl 0.0 true "Loading..." (some 0.0)
    | loading | ready => exact .idle rfl
    | errored | crashed => exact .late rfl
  | progress sample =>
    cases state with
    | unloaded | loading => exact .loads rfl sample.percent _ _ (some sample.percent)
    | ready => exact .idle rfl
    | errored | crashed => exact .late rfl
  | load =>
    cases state with
    | unloaded | loading | ready => exact .runs rfl "Running"
    | errored | crashed => exact .late rfl
  | dependencies remaining =>
    cases state with
    | unloaded =>
      simp only [step, outstanding]
      split
      · exact .runs rfl _
      · exact .loads rfl 0.0 true _ none
    | loading percent =>
      simp only [step, outstanding]
      split
      · exact .runs rfl _
      · exact .loads rfl percent false _ none
    | ready => exact .idle rfl
    | errored | crashed => exact .late rfl
  | error message =>
    cases state with
    | unloaded | loading | ready => exact .fails rfl rfl (.errored message) rfl _
    | errored | crashed => exact .late rfl
  | crash =>
    cases state with
    | unloaded | loading | ready => exact .fails rfl rfl .crashed rfl _
    | errored | crashed => exact .late rfl

/-- A life whose parts agree with one another. -/
structure Coherent (life : Lifecycle) : Prop where
  /-- The spinner is there exactly while the module is waited for. -/
  spinner : life.spinnerHidden = !life.state.isWaiting
  /-- A module that runs has been revealed. -/
  ready : life.state.isReady = true → life.revealed = true
  /-- A module that is waited for has not been revealed. -/
  waiting : life.state.isWaiting = true → life.revealed = false
  /-- The last error is why the load failed. -/
  error : life.lastError = life.state.message?

/-- A life of which nothing has happened yet is coherent. -/
theorem coherent_new : Coherent {} :=
  ⟨rfl, fun ready => by contradiction, fun _ => rfl, rfl⟩

variable {life next : Lifecycle} {event : Event} {t : Transition}

/-- Until a module fails, the spinner has gone exactly if the module has been revealed. -/
theorem Coherent.hidden_of_alive (coherent : life.Coherent)
    (alive : life.state.isTerminal = false) : life.spinnerHidden = life.revealed := by
  rw [coherent.spinner]
  cases ready : life.state.isReady with
  | true =>
    rw [State.isReady_iff.mp ready, coherent.ready ready]
    rfl
  | false =>
    have waiting := State.waiting_of_alive alive ready
    rw [waiting, coherent.waiting waiting]
    rfl

/-- Every move leaves a life coherent. -/
theorem Move.coherent (move : Move life event next t) (coherent : life.Coherent) :
    next.Coherent := by
  have unsaid : life.state.isTerminal = false → life.lastError = none := by
    intro alive
    rw [coherent.error, State.message?_of_alive alive]
  cases move with
  | late => exact coherent
  | idle => exact ⟨coherent.spinner, coherent.ready, coherent.waiting, coherent.error⟩
  | loads waiting =>
    have turning : life.spinnerHidden = false := by rw [coherent.spinner, waiting]; rfl
    exact
      { spinner := turning
        ready := fun ready => by contradiction
        waiting := fun _ => coherent.waiting waiting
        error := unsaid (State.alive_of_waiting waiting) }
  | runs alive =>
    exact
      { spinner := rfl
        ready := fun _ => rfl
        waiting := fun waiting => by contradiction
        error := unsaid alive }
  | fails alive _ state terminal =>
    have left := State.not_waiting_of_terminal terminal
    have stopped := State.not_ready_of_terminal terminal
    exact
      { spinner := by simp [left]
        ready := by simp [stopped]
        waiting := by simp [left]
        error := by simp [unsaid alive] }

/-- A module counts as revealed from the move on that makes it run. -/
theorem Move.revealed (move : Move life event next t) (coherent : life.Coherent) :
    next.revealed = (life.revealed || next.state.isReady) := by
  cases move with
  | late terminal => simp [State.not_ready_of_terminal terminal]
  | idle =>
    cases ready : life.state.isReady with
    | true => simp [counted, coherent.ready ready]
    | false => simp [counted, ready]
  | loads => simp [counted, State.isReady]
  | runs => simp [running, State.isReady]
  | fails alive _ state terminal => simp [State.not_ready_of_terminal terminal]

/-- Only an event that reports a failure makes a module fail. -/
theorem Move.alive (move : Move life event next t) (alive : life.state.isTerminal = false)
    (harmless : Session.failureOf event = none) : next.state.isTerminal = false := by
  cases move with
  | late | idle => exact alive
  | loads | runs => rfl
  | fails _ reports =>
    rw [harmless] at reports
    contradiction

/-- Nothing happens to a module that has failed. -/
theorem step_of_terminal (terminal : life.state.isTerminal = true) (event : Event) :
    life.step event = (life, {}) := by
  obtain ⟨state, revealed, spinnerHidden, dependencies, lastError⟩ := life
  cases state with
  | errored | crashed => cases event <;> rfl
  | unloaded | loading | ready => contradiction

/-- The life after what may have been an event. -/
def after (life : Lifecycle) : Option Event → Lifecycle
  | some event => (life.step event).1
  | none => life

end Lifecycle

/-- A status line changes the module's life as the progress in it does. -/
theorem Session.runtimeStatus_lifecycle (s : Session) (text : String) :
    (s.runtimeStatus text).session.lifecycle =
      s.lifecycle.after ((statusSample? text).map .progress) := by
  unfold runtimeStatus
  cases terminal : s.lifecycle.state.isTerminal with
  | true =>
    cases statusSample? text with
    | none => rfl
    | some sample => simp [Lifecycle.after, Lifecycle.step_of_terminal terminal]
  | false => cases statusSample? text <;> rfl

namespace Recording

/-- The event in the module's life that an operation is. A status line is one if it reports
progress. -/
def Operation.event? : Operation → Option Lifecycle.Event
  | .signal (.life event) => some event
  | .signal (.status text) => (statusSample? text).map .progress
  | _ => none

/-- What is not about the module's life is no event in it. -/
theorem Operation.event?_of_rest {operation : Operation} (rest : operation.isLife = false) :
    operation.event? = none := by
  cases operation with
  | signal told =>
    cases told with
    | life | status => contradiction
    | payload | dispatch | print | fullscreenChange | enterSoft | leaveSoft | windowResize => rfl
  | requestFullscreen | setWindow | setRefusal => rfl

/-- An operation changes the module's life as its event does. -/
theorem step_lifecycle (r : Recording) (operation : Operation) :
    (r.step operation).1.session.lifecycle = r.session.lifecycle.after operation.event? := by
  cases life : operation.isLife with
  | false =>
    rw [step_of_rest r life, Operation.event?_of_rest life]
    rfl
  | true =>
    rcases Operation.eq_of_isLife life with ⟨event, rfl⟩ | ⟨text, rfl⟩
    · rfl
    · exact r.session.runtimeStatus_lifecycle text

/-- What no event in a module's life undoes, no run undoes. -/
theorem run_lifecycle {holds : Lifecycle → Prop}
    (kept : ∀ life event, holds life → holds (life.step event).1) (r : Recording)
    (begun : holds r.session.lifecycle) (operations : List Operation) :
    holds (r.run operations).session.lifecycle := by
  induction operations generalizing r with
  | nil => exact begun
  | cons operation later ih =>
    rw [run_cons]
    apply ih
    rw [step_lifecycle]
    cases operation.event? with
    | none => exact begun
    | some event => exact kept r.session.lifecycle event begun

/-- In every run the parts of the module's life agree with one another. -/
theorem coherent_run (r : Recording) (coherent : r.session.lifecycle.Coherent)
    (operations : List Operation) : (r.run operations).session.lifecycle.Coherent :=
  run_lifecycle (fun life event => (life.step_moves event).coherent) r coherent operations

/-- Nothing changes the life of a module that has failed. -/
theorem lifecycle_of_terminal (r : Recording)
    (terminal : r.session.lifecycle.state.isTerminal = true) (operations : List Operation) :
    (r.run operations).session.lifecycle = r.session.lifecycle := by
  have kept : ∀ life event, life = r.session.lifecycle →
      (life.step event).1 = r.session.lifecycle := by
    intro life event same
    rw [same, Lifecycle.step_of_terminal terminal]
  exact run_lifecycle kept r rfl operations

end Recording

end Embed
