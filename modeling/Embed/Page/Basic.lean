import Embed.Decimal
import Embed.Page.Step
import Embed.Viewport
/-!
# A page

A page is a list of elements, listeners on them, and what its scripts have set up: properties,
functions, calls that throw. Every effect on it is traced, in order; what is asked of it leaves no
trace.
-/

namespace Embed

/-- What kind of element one is, as far as a host tells them apart. -/
inductive Tag where
  /-- A canvas. -/
  | canvas
  /-- A text field of several lines. -/
  | textArea
  /-- A progress bar. -/
  | progressBar
  /-- Any other element of the document's own language. -/
  | plain
  /-- An element of a foreign language, which has no style of its own. -/
  | foreign
  deriving DecidableEq, Repr

/-- A function that a page gave to an element. While it runs, a call of it does nothing. -/
structure Hook where
  /-- What it does. -/
  script : Script Step
  /-- Whether it is running. -/
  running : Bool := false

/-- An element. -/
structure Element where
  /-- Its id. -/
  id : String
  /-- Its kind. -/
  tag : Tag
  /-- Its size, if it is a canvas. -/
  size : Size := ⟨0, 0⟩
  /-- Its properties other than functions. -/
  properties : List (String × PageValue) := []
  /-- Its function for posted messages. -/
  onPost : Option Hook := none
  /-- Its function for requests of fullscreen. -/
  onFullscreen : Option Hook := none

/-- A listener on a page. It is live as long as whoever added it keeps it; a listener that could not
be removed stays on the page, but does nothing. -/
structure Listener where
  /-- What it listens on. -/
  target : Target
  /-- What it listens for. -/
  kind : EventKind
  /-- Whether it still does something. -/
  live : Bool := true
  deriving DecidableEq, Repr

/-- An effect on a page. -/
inductive Trace where
  /-- A line on the console. -/
  | log (line : String)
  /-- A line of errors on the console. -/
  | logError (line : String)
  /-- A listener was added. -/
  | added (target : Target) (kind : EventKind)
  /-- A listener was removed. -/
  | removed (target : Target) (kind : EventKind)
  /-- An element's text was set. -/
  | text (id content : String)
  /-- A text field's value was set. -/
  | value (id content : String)
  /-- An element was scrolled. -/
  | scrollTop (id : String) (lines : Nat)
  /-- An element was hidden. -/
  | hidden (id : String)
  /-- An element was shown. -/
  | shown (id : String)
  /-- A canvas's width was set. -/
  | width (id : String) (pixels : UInt32)
  /-- A canvas's height was set. -/
  | height (id : String) (pixels : UInt32)
  /-- A progress bar's end was set. -/
  | progressMax (id : String) (percent : Float)
  /-- A progress bar was set. -/
  | progress (id : String) (percent : Float)
  /-- Fullscreen was requested. -/
  | requestFullscreen (id : String)
  /-- A message was posted. -/
  | postMessage (id : String) (payload : PageValue)

/-- A page. -/
structure Page where
  /-- Its elements. -/
  elements : List Element
  /-- The width that the window reports. -/
  innerWidth : PageValue
  /-- The height that the window reports. -/
  innerHeight : PageValue
  /-- Whether there is a window. -/
  hasWindow : Bool := true
  /-- Whether the window has a document. -/
  hasDocument : Bool := true
  /-- The id of the element that is fullscreen. -/
  fullscreenElement : Option String := none
  /-- The calls that throw, the latest first. -/
  throwing : List ((Target × PageCall) × PageValue) := []
  /-- The listeners, in the order in which they were added. -/
  listeners : List Listener := []
  /-- The effects so far, in order. -/
  trace : List Trace := []

namespace Page

/-- Notes an effect. -/
def note (page : Page) (effect : Trace) : Page :=
  { page with trace := page.trace ++ [effect] }

/-- Writes a line on the console. -/
def log (page : Page) (line : String) : Page :=
  page.note (.log line)

/-- Writes a line of errors on the console. -/
def logError (page : Page) (line : String) : Page :=
  page.note (.logError line)

/-- The element of an id. -/
def element? (page : Page) (id : String) : Option Element :=
  page.elements.find? (·.id == id)

/-- Changes the element of an id. -/
def modify (page : Page) (id : String) (f : Element → Element) : Page :=
  { page with elements := page.elements.map fun e => if e.id = id then f e else e }

/-- What a call throws, if it does. -/
def thrown? (page : Page) (target : Target) (call : PageCall) : Option PageValue :=
  page.throwing.lookup (target, call)

/-- The value of an element's property, unless reading it throws. -/
def property? (page : Page) (id name : String) : Option PageValue :=
  match page.thrown? (.element id) (.get name) with
  | some _ => none
  | none => (page.element? id).bind (·.properties.lookup name)

/-- An element's function for posted messages, unless looking for it throws. -/
def postHook? (page : Page) (id : String) : Option Hook :=
  match page.thrown? (.element id) (.get "postMessage") with
  | some _ => none
  | none => (page.element? id).bind (·.onPost)

/-- Adds a listener. Yields what that throws, if it does. -/
def addListener (page : Page) (target : Target) (kind : EventKind) : Except PageValue Page :=
  match page.thrown? target (.add kind) with
  | some value => .error value
  | none =>
    let page := { page with listeners := page.listeners ++ [Listener.mk target kind true] }
    .ok (page.note (.added target kind))

/-- Whether a listener is the live one for a kind of event on a target. -/
def listensFor (target : Target) (kind : EventKind) (l : Listener) : Bool :=
  l.live && l.target == target && l.kind == kind

/-- Listeners with the first live one for a kind of event on a target no longer live. -/
def silence (target : Target) (kind : EventKind) : List Listener → List Listener
  | [] => []
  | l :: rest =>
    if listensFor target kind l then { l with live := false } :: rest
    else l :: silence target kind rest

/-- Lets go of a listener. It is removed from the page, or at least does nothing any more. -/
def dropListener (page : Page) (target : Target) (kind : EventKind) : Page :=
  match page.thrown? target (.remove kind) with
  | none =>
    let page := { page with listeners := page.listeners.eraseP (listensFor target kind) }
    page.note (.removed target kind)
  | some value =>
    let page := { page with listeners := silence target kind page.listeners }
    page.log ("[modhost] failed to remove '" ++ kind.name ++ "' listener: " ++ value.describe)

/-- Lets go of listeners in order. -/
def dropListeners (page : Page) (held : List (Target × EventKind)) : Page :=
  held.foldl (fun p (t, k) => p.dropListener t k) page

/-- Adds listeners in order. When one cannot be added, those before it are let go again. -/
def addListeners (page : Page) (held : List (Target × EventKind)) :
    List (Target × EventKind) → Page × Option PageValue
  | [] => (page, none)
  | (target, kind) :: rest =>
    match page.addListener target kind with
    | .ok page' => page'.addListeners (held ++ [(target, kind)]) rest
    | .error value => (page.dropListeners held, some value)

/-- The live listeners for a kind of event on a target. -/
def listenersFor (page : Page) (target : Target) (kind : EventKind) : List Listener :=
  page.listeners.filter (listensFor target kind)

/-- The lines of a text that is shown: one more than its line breaks. -/
def lineCount (text : String) : Nat :=
  text.toList.count '\n' + 1

/-- Sets an element's text. -/
def setText (page : Page) (id content : String) : Page :=
  page.note (.text id content)

/-- Shows a text in an element, scrolled to its end. A text field takes it as its value. -/
def showText (page : Page) (id content : String) : Page :=
  let isField := (page.element? id).any (·.tag == .textArea)
  (page.note (if isField then .value id content else .text id content)).note
    (.scrollTop id (lineCount content))

/-- Shows or hides an element. Yields what that throws, if it does. -/
def setShown (page : Page) (id : String) (shown : Bool) : Except PageValue Page :=
  match page.thrown? (.element id) .style with
  | some value => .error value
  | none => .ok (page.note (if shown then .shown id else .hidden id))

/-- Gives a canvas a size. -/
def setCanvasSize (page : Page) (id : String) (size : Size) : Page :=
  ((page.modify id fun e => { e with size }).note (.width id size.width)).note
    (.height id size.height)

/-- The size of a canvas. -/
def canvasSize (page : Page) (id : String) : Size :=
  ((page.element? id).map (·.size)).getD ⟨0, 0⟩

/-- A dimension that the window reports: a number cut to whole pixels, zero where it is none. -/
def pixels (value : PageValue) : UInt32 :=
  match value.number? with
  | some x => UInt32.ofNat (Decimal.truncateTo 0 0xffffffff x).toNat
  | none => 0

/-- The size of the window, zero in every dimension that is not to be had. -/
def windowSize (page : Page) : Size :=
  if page.hasWindow && (page.thrown? .window .inner).isNone then
    ⟨pixels page.innerWidth, pixels page.innerHeight⟩
  else ⟨0, 0⟩

/-- Sets a property of an element. The function for posted messages is one of them. -/
def setProperty (page : Page) (id name : String) (value : PageValue) : Page :=
  page.modify id fun e =>
    { e with
      properties := (name, value) :: e.properties
      onPost := if name = "postMessage" then none else e.onPost }

/-- Marks an element's function for posted messages as running or not. -/
def setPosting (page : Page) (id : String) (running : Bool) : Page :=
  page.modify id fun e => { e with onPost := e.onPost.map fun h => { h with running } }

/-- Marks an element's function for requests of fullscreen as running or not. -/
def setRequesting (page : Page) (id : String) (running : Bool) : Page :=
  page.modify id fun e => { e with onFullscreen := e.onFullscreen.map fun h => { h with running } }

/-- The page without its trace. -/
def untraced (page : Page) : Page :=
  { page with trace := [] }

end Page

end Embed
