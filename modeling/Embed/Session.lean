import Embed.Config.Parser
import Embed.Lifecycle
import Embed.Message.Decoder
/-!
# A session between a page and its module

A session holds all that is known of one embedded module: its life, its canvas in the window, its
output, and how many messages it sent. It takes signals, and answers each with its next state and
the effects that the page has to show, in order. It never touches a page itself, so that any page
that carries out effects runs the same session.
-/

namespace Embed

/-! ## Failures

What can go wrong between a page and its module. Each failure ends only what it is about: a load, a
run, one message, the reading of a configuration, one call to the platform.
-/

/-- A failure that the page is told of. -/
inductive Failure where
  /-- The module could not be loaded. -/
  | load (message : String)
  /-- The module stopped unexpectedly. -/
  | crash
  /-- A payload was no message. -/
  | decode (error : DecodeError)
  /-- The configuration was refused. -/
  | config (reason : String)
  /-- The platform refused a call. -/
  | platform (reason : String)
  deriving DecidableEq, Repr

/-- The words for a failure. -/
def Failure.message : Failure → String
  | .load message => "module failed to load: " ++ message
  | .crash => "module crashed"
  | .decode error => error.message
  | .config reason => "invalid configuration: " ++ reason
  | .platform reason => "platform call failed: " ++ reason

/-! ## Output text

Text that only grows at its end. Where a limit is set, the oldest characters go as soon as the text
takes more bytes.
-/

/-- Output text so far. -/
structure Scrollback where
  /-- The text kept. -/
  text : String := ""
  /-- The most bytes to keep, or all of them. -/
  limit : Option Nat := none
  deriving DecidableEq, Repr

/-- A text cut to the longest of its ends that takes no more bytes than the limit. -/
def fitted (limit : Nat) (text : List Char) : List Char :=
  Text.dropBytes (Text.byteLength text - limit) text

/-- The output after more text, and whether older text had to go for it. -/
def Scrollback.append (buffer : Scrollback) (piece : String) : Scrollback × Bool :=
  let whole := buffer.text ++ piece
  match buffer.limit with
  | none => ({ buffer with text := whole }, false)
  | some limit =>
    if limit < Text.byteLength whole.toList then
      ({ buffer with text := String.ofList (fitted limit whole.toList) }, true)
    else ({ buffer with text := whole }, false)

/-! ## Signals and what they do -/

/-- The parts of a page that are shown and hidden. -/
inductive Surface where
  /-- What turns while the module loads. -/
  | spinner
  /-- The canvas. -/
  | canvas
  /-- The output. -/
  | output
  deriving DecidableEq, Repr

/-- Something that the page has to show. -/
inductive Effect where
  /-- A piece was appended to the output, which now is this whole text. -/
  | output (piece text : String)
  /-- A part is shown or hidden. -/
  | visible (surface : Surface) (shown : Bool)
  /-- The canvas takes a size. -/
  | canvas (size : Size)
  /-- The status line reads this. -/
  | status (text : String)
  /-- The progress bar stands here. -/
  | progress (percent : Float)

/-- What a page shows of a transition. -/
def Lifecycle.Transition.effects (t : Lifecycle.Transition) : List Effect :=
  (t.status.map Effect.status).toList ++ (t.progress.map Effect.progress).toList ++
    if t.reveal then [.visible .spinner false, .visible .canvas true, .visible .output true]
    else if t.hideSpinner then [.visible .spinner false]
    else []

/-- How many messages there were. -/
structure Counters where
  /-- Messages decoded and carried out, of unknown kinds too. -/
  handled : UInt64 := 0
  /-- Messages of unknown kinds. -/
  unknown : UInt64 := 0
  /-- Payloads that were no message. -/
  decodeErrors : UInt64 := 0
  deriving DecidableEq, Repr

/-- A session. -/
structure Session where
  /-- What the page chose. -/
  config : Config
  /-- The life of the module. -/
  lifecycle : Lifecycle := {}
  /-- The canvas in the window. -/
  viewport : Viewport := {}
  /-- How many messages there were. -/
  counters : Counters := {}
  /-- The output. -/
  transcript : Scrollback

/-- The sizes that a page has when a signal arrives. -/
structure Geometry where
  /-- The size of the canvas. -/
  canvas : Size
  /-- The size of the window. -/
  window : Size
  deriving DecidableEq, Repr

/-- What a session is told. -/
inductive Signal where
  /-- Something happened to the module. -/
  | life (event : Lifecycle.Event)
  /-- A runtime reports a status line. -/
  | status (text : String)
  /-- A payload arrived. -/
  | payload (text : String)
  /-- A decoded message is to be carried out. -/
  | dispatch (message : Message)
  /-- A runtime prints a line. -/
  | print (line : String)
  /-- The platform notifies of a change to or from fullscreen. -/
  | fullscreenChange (fullscreen : Bool)
  /-- The canvas is to fill the window without the platform. -/
  | enterSoft
  /-- The canvas is no longer to fill the window without the platform. -/
  | leaveSoft
  /-- The window changed its size. -/
  | windowResize

/-- What the sender of a signal learns. -/
inductive Reply where
  /-- Nothing. -/
  | done
  /-- The signal made the module fail. -/
  | failed (failure : Failure)
  /-- What became of a payload. -/
  | decoded (result : Except DecodeError Message)

/-- A session after a signal, what the page has to show, and what the sender learns. -/
structure Session.Answer where
  /-- The session. -/
  session : Session
  /-- The effects, in order. -/
  effects : List Effect := []
  /-- The reply. -/
  reply : Reply := .done

namespace Session

/-- A session of which nothing has happened yet. -/
def new (config : Config) : Session where
  config := config
  transcript := { limit := config.scrollbackLimit }

/-- Appends to the output. -/
def append (s : Session) (piece : String) : Answer :=
  let transcript := (s.transcript.append piece).1
  { session := { s with transcript }, effects := [.output piece transcript.text] }

/-- The failure that an event reports when it is the one that ends the module's life. -/
def failureOf : Lifecycle.Event → Option Failure
  | .error message => some (.load message)
  | .crash => some .crash
  | _ => none

/-- Something happened to the module. -/
def live (s : Session) (event : Lifecycle.Event) : Answer :=
  let (lifecycle, transition) := s.lifecycle.step event
  { session := { s with lifecycle }
    effects := transition.effects
    reply :=
      match failureOf event with
      | some failure => if transition.changed then .failed failure else .done
      | none => .done }

/-- A runtime reports a status line: it becomes the status line of the page, and the progress in it,
if any, counts as progress. Nothing is reported of a module that has failed. -/
def runtimeStatus (s : Session) (text : String) : Answer :=
  if s.lifecycle.state.isTerminal then { session := s }
  else
    let line : List Effect := if text.isEmpty then [] else [.status text]
    match statusSample? text with
    | none => { session := s, effects := line }
    | some sample =>
      let (lifecycle, transition) := s.lifecycle.progress sample
      { session := { s with lifecycle }
        effects := (transition.progress.map Effect.progress).toList ++ line }

/-- Carries out a message. -/
def dispatch (s : Session) (message : Message) : Answer :=
  let counters := s.counters
  let counted : Session :=
    { s with
      counters :=
        { counters with
          handled := counters.handled + 1
          unknown := if message.isUnknown then counters.unknown + 1 else counters.unknown } }
  let printed : Answer :=
    match message.outputText with
    | some text => counted.append text
    | none => { session := counted }
  { printed with
    effects := printed.effects ++ (message.canvasSize.map Effect.canvas).toList }

/-- A payload arrived. One that is no message leaves a line in the output and nothing else. -/
def receive (s : Session) (payload : String) : Answer :=
  match decode s.config.transport payload with
  | .ok message => { s.dispatch message with reply := .decoded (.ok message) }
  | .error error =>
    let counted : Session :=
      { s with counters := { s.counters with decodeErrors := s.counters.decodeErrors + 1 } }
    { counted.append ("malformed msg received: " ++ error.message ++ "\n") with
      reply := .decoded (.error error) }

/-- Takes over a new presentation of the canvas, and the size that it gives. -/
def present (s : Session) (change : Viewport × Option Size) : Answer :=
  { session := { s with viewport := change.1 }, effects := (change.2.map Effect.canvas).toList }

/-- The window changed its size: a canvas that fills it follows, if the page wants that and the size
is not the canvas's already. -/
def windowResized (s : Session) (geometry : Geometry) : Answer :=
  if s.config.trackWindowSize then
    match s.viewport.windowResized geometry.window with
    | some size => { session := s, effects := if size = geometry.canvas then [] else [.canvas size] }
    | none => { session := s }
  else { session := s }

/-- What a signal does. -/
def receiveSignal (s : Session) (geometry : Geometry) : Signal → Answer
  | .life event => s.live event
  | .status text => s.runtimeStatus text
  | .payload text => s.receive text
  | .dispatch message => s.dispatch message
  | .print line => s.append (line ++ "\n")
  | .fullscreenChange fullscreen =>
    s.present (s.viewport.change fullscreen geometry.canvas geometry.window)
  | .enterSoft => s.present (s.viewport.enterSoft geometry.canvas geometry.window)
  | .leaveSoft => s.present s.viewport.leaveSoft
  | .windowResize => s.windowResized geometry

/-- A request for the platform's fullscreen is about to be made. -/
def beginRequest (s : Session) (canvas : Size) : Session :=
  { s with viewport := s.viewport.request canvas }

/-- The platform refused the request. -/
def cancelRequest (s : Session) : Session :=
  { s with viewport := s.viewport.cancel }

end Session

end Embed
