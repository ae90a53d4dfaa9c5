import Embed.Session
/-!
# A session over a recorded page

The plainest page there is: it records what a session shows. A recording is a session together with
such a page, driven by one operation after the other.
-/

namespace Embed

/-- A truth or a count for each part of a page that is shown and hidden. -/
structure PerSurface (α : Type) where
  /-- For the spinner. -/
  spinner : α
  /-- For the canvas. -/
  canvas : α
  /-- For the output. -/
  output : α
  deriving DecidableEq, Repr

/-- The entry of one part, changed. -/
def PerSurface.modify {α : Type} (entries : PerSurface α) (surface : Surface) (f : α → α) :
    PerSurface α :=
  match surface with
  | .spinner => { entries with spinner := f entries.spinner }
  | .canvas => { entries with canvas := f entries.canvas }
  | .output => { entries with output := f entries.output }

/-- What a page shows, and how often it was asked to. -/
structure Display where
  /-- The size of the canvas. -/
  canvas : Size
  /-- The size of the window. -/
  window : Size
  /-- The status line. -/
  status : String := ""
  /-- The progress bar, once it has been set. -/
  progress : Option Float := none
  /-- The output text. -/
  output : String := ""
  /-- Which parts are shown: at first only the spinner. -/
  visible : PerSurface Bool := ⟨true, false, false⟩
  /-- How often each part was shown or hidden. -/
  toggles : PerSurface Nat := ⟨0, 0, 0⟩
  /-- How often the canvas was given a size. -/
  assignments : Nat := 0
  /-- How often fullscreen was requested. -/
  requests : Nat := 0
  /-- Why the platform refuses fullscreen, if it does. -/
  refusal : Option String := none

namespace Display

/-- A canvas of 800 by 600 in a window of 1920 by 1080. -/
def standard : Display :=
  { canvas := ⟨800, 600⟩, window := ⟨1920, 1080⟩ }

/-- Records one effect. -/
def apply (display : Display) : Effect → Display
  | .output _ text => { display with output := text }
  | .visible surface shown =>
    { display with
      visible := display.visible.modify surface fun _ => shown
      toggles := display.toggles.modify surface (· + 1) }
  | .canvas size => { display with canvas := size, assignments := display.assignments + 1 }
  | .status text => { display with status := text }
  | .progress percent => { display with progress := some percent }

/-- Records effects in order. -/
def applyAll (display : Display) (effects : List Effect) : Display :=
  effects.foldl apply display

/-- The sizes that the page has. -/
def geometry (display : Display) : Geometry :=
  ⟨display.canvas, display.window⟩

end Display

/-- A session over a recorded page. -/
structure Recording where
  /-- The session. -/
  session : Session
  /-- What its page shows. -/
  display : Display

namespace Recording

/-- What is done in a recording. -/
inductive Operation where
  /-- The session is told something. -/
  | signal (signal : Signal)
  /-- Fullscreen is requested. -/
  | requestFullscreen
  /-- The window takes a size. -/
  | setWindow (size : Size)
  /-- The platform refuses fullscreen from now on, or no longer. -/
  | setRefusal (reason : Option String)

/-- A recording in which nothing has happened yet. -/
def new (config : Config) (display : Display) : Recording where
  session := .new config
  display := display

/-- Tells the session something and shows what it answers. -/
def tell (r : Recording) (signal : Signal) : Recording × Reply :=
  let answer := r.session.receiveSignal r.display.geometry signal
  (⟨answer.session, r.display.applyAll answer.effects⟩, answer.reply)

/-- Requests fullscreen. The session keeps the size of the canvas first, and is told when the
platform refuses. -/
def requestFullscreen (r : Recording) : Recording × Reply :=
  let session := r.session.beginRequest r.display.canvas
  let display := { r.display with requests := r.display.requests + 1 }
  match display.refusal with
  | none => (⟨session, display⟩, .done)
  | some reason => (⟨session.cancelRequest, display⟩, .failed (.platform reason))

/-- What an operation does. -/
def step (r : Recording) : Operation → Recording × Reply
  | .signal signal => r.tell signal
  | .requestFullscreen => r.requestFullscreen
  | .setWindow size => ({ r with display := { r.display with window := size } }, .done)
  | .setRefusal reason => ({ r with display := { r.display with refusal := reason } }, .done)

/-- What operations do, one after the other. -/
def run (r : Recording) (operations : List Operation) : Recording :=
  operations.foldl (fun r operation => (r.step operation).1) r

end Recording

end Embed
