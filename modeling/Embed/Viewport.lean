import Embed.Json.Printer
/-!
# The canvas in its window

A canvas has its own size, or fills the window. The size it had is kept before it first fills the
window, never while it does, and is given back to it afterwards. Filling by the platform's own
fullscreen takes two steps, a request and, later, a notification; between them the canvas may change,
so a request keeps the size at once and its notification leaves it alone. Filling without the
platform, called soft, takes effect immediately.
-/

namespace Embed

/-- The pixel dimensions of a canvas or a window. -/
structure Size where
  /-- Pixels across. -/
  width : UInt32
  /-- Pixels down. -/
  height : UInt32
  deriving DecidableEq, Repr

/-- A size is empty when either dimension is zero. -/
def Size.isEmpty (size : Size) : Bool :=
  size.width == 0 || size.height == 0

/-- The size itself, unless it is empty. -/
def Size.nonempty? (size : Size) : Option Size :=
  if size.isEmpty then none else some size

/-- How the canvas is presented. -/
inductive DisplayMode where
  /-- At its own size. -/
  | windowed
  /-- Filling the window, by the platform's fullscreen. -/
  | fullscreen
  /-- Filling the window, without the platform. -/
  | softFullscreen
  deriving DecidableEq, Repr

/-- The name of a mode. -/
def DisplayMode.name : DisplayMode → String
  | .windowed => "windowed"
  | .fullscreen => "fullscreen"
  | .softFullscreen => "soft_fullscreen"

/-- The presentation of the canvas. -/
structure Viewport where
  /-- The size to give back. -/
  saved : Option Size := none
  /-- How the canvas is presented now. -/
  mode : DisplayMode := .windowed
  /-- Whether a request kept the size and awaits its notification. -/
  pending : Bool := false
  deriving DecidableEq, Repr

namespace Viewport

/-- Whether the canvas fills the window, in either way. -/
def isFullscreen (v : Viewport) : Bool :=
  v.mode != .windowed

/-- Whether the canvas fills the window without the platform. -/
def isSoft (v : Viewport) : Bool :=
  v.mode == .softFullscreen

/-- Keeps the current size, if it is the canvas's own. -/
def capture (v : Viewport) (current : Size) : Viewport :=
  if v.mode = .windowed then { v with saved := some current } else v

/-- The size to give back, if it is not empty. -/
def restored? (v : Viewport) : Option Size :=
  v.saved.bind Size.nonempty?

/-- A request to the platform is about to be made. -/
def request (v : Viewport) (current : Size) : Viewport :=
  if v.mode = .windowed then { v.capture current with pending := true } else v

/-- The platform refused the request; no notification will come. -/
def cancel (v : Viewport) : Viewport :=
  { v with pending := false }

/-- The platform notifies of fullscreen. Yields the size that the canvas takes, if any. -/
def entered (v : Viewport) (current window : Size) : Viewport × Option Size :=
  let kept := if v.pending then v else v.capture current
  ({ kept with pending := false, mode := .fullscreen }, window.nonempty?)

/-- The platform notifies that fullscreen is over. It may do so when nothing was entered. -/
def exited (v : Viewport) : Viewport × Option Size :=
  if v.mode = .windowed then (v, none)
  else ({ v with mode := .windowed }, v.restored?)

/-- The platform notifies of a change to or from fullscreen. -/
def change (v : Viewport) (fullscreen : Bool) (current window : Size) : Viewport × Option Size :=
  if fullscreen then v.entered current window else v.exited

/-- The canvas fills the window without the platform, unless it does so with it. -/
def enterSoft (v : Viewport) (current window : Size) : Viewport × Option Size :=
  if v.mode = .fullscreen then (v, none)
  else ({ v.capture current with mode := .softFullscreen }, window.nonempty?)

/-- The canvas no longer fills the window without the platform. -/
def leaveSoft (v : Viewport) : Viewport × Option Size :=
  if v.mode = .softFullscreen then ({ v with mode := .windowed }, v.restored?)
  else (v, none)

/-- The size that the canvas takes when the window has changed. -/
def windowResized (v : Viewport) (window : Size) : Option Size :=
  if v.mode = .windowed then none else window.nonempty?

end Viewport

/-- A size as a JSON value, the width first. -/
def Size.toValue (size : Size) : Json.Value :=
  .object [("width", .number (.integer (.ofUInt32 size.width))),
    ("height", .number (.integer (.ofUInt32 size.height)))]

/-- A size as a JSON value with its members in the order of their names. -/
def Size.sortedValue (size : Size) : Json.Value :=
  .object [("height", .number (.integer (.ofUInt32 size.height))),
    ("width", .number (.integer (.ofUInt32 size.width)))]

/-- The presentation as a JSON value. An awaited notification does not show. -/
def Viewport.toValue (v : Viewport) : Json.Value :=
  .object [("saved", (v.saved.map Size.toValue).getD .null), ("mode", .string v.mode.name)]

/-- The presentation as a JSON value with its members in the order of their names. -/
def Viewport.sortedValue (v : Viewport) : Json.Value :=
  .object [("mode", .string v.mode.name), ("saved", (v.saved.map Size.sortedValue).getD .null)]

end Embed
