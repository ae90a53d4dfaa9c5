import Embed.Config.Parser
import Embed.Host.Parts
/-!
# A host on a page

A host is a session and the parts of a page that show it. A page and its host make a world. While
the platform is asked for fullscreen the session is in use, and the page may call back in the
meantime: what would change the session then is dropped, and what would read it goes without.
-/

namespace Embed

/-- A host. -/
structure Host where
  /-- The parts of the page that it drives. -/
  parts : Parts
  /-- Its session. -/
  session : Session
  /-- The id of the attached element. -/
  attached : Option String := none

/-- A page and its host. -/
structure World where
  /-- The page. -/
  page : Page
  /-- The host, while there is one. -/
  host : Option Host := none
  /-- Whether the session is in use. -/
  busy : Bool := false

/-- What a step yields. -/
inductive Result where
  /-- Nothing. -/
  | done
  /-- A truth value. -/
  | truth (b : Bool)
  /-- A text. -/
  | text (s : String)
  /-- A thrown value. -/
  | raised (value : PageValue)

/-- The result of a call that fails with words. -/
def Result.refused (reason : String) : Result :=
  .raised (.text reason)

namespace Host

/-- The sizes that a host sees. -/
def geometry (host : Host) (page : Page) : Geometry :=
  ⟨page.canvasSize host.parts.canvas, page.windowSize⟩

/-- The events that a host listens for on the attached element. -/
def moduleKinds : List EventKind :=
  [.loadStart, .progress, .load, .error, .crash, .message]

/-- The listeners that a host has on an attached element. -/
def moduleListeners (id : String) : List (Target × EventKind) :=
  moduleKinds.map fun kind => (.element id, kind)

/-- The listeners that a host has on its page. -/
def pageListeners : List (Target × EventKind) :=
  [(.document, .fullscreenChange), (.window, .resize)]

/-- The state of the module as JSON. -/
def stateText (host : Host) : String :=
  host.session.lifecycle.state.toValue.render

/-- Counters, canvas and viewport as JSON, all members in the order of their names. -/
def statsValue (host : Host) (page : Page) : Json.Value :=
  let counters := host.session.counters
  .object [("canvas", (page.canvasSize host.parts.canvas).sortedValue),
    ("decodeErrors", .count counters.decodeErrors),
    ("messagesHandled", .count counters.handled),
    ("unknownMessages", .count counters.unknown),
    ("viewport", host.session.viewport.sortedValue)]

/-- Counters, canvas and viewport as JSON text. -/
def statsText (host : Host) (page : Page) : String :=
  (host.statsValue page).render

end Host

namespace World

/-- Writes a line on the console. -/
def log (w : World) (line : String) : World :=
  { w with page := w.page.log line }

/-- Writes a line of errors on the console. -/
def logError (w : World) (line : String) : World :=
  { w with page := w.page.logError line }

/-- Tells the session something and carries out what it answers, unless it is in use. -/
def tell (w : World) (signal : Signal) : World × Option Reply :=
  match w.host with
  | none => (w, none)
  | some host =>
    if w.busy then (w.log "[modhost] Bridge busy, dropping re-entrant event", none)
    else
      let answer := host.session.receiveSignal (host.geometry w.page) signal
      let page := w.page.applyAll host.parts host.session.config.echoToConsole answer.effects
      ({ w with page, host := some { host with session := answer.session } }, some answer.reply)

/-- Tells the session something whose reply nobody waits for. -/
def inform (w : World) (signal : Signal) : World :=
  (w.tell signal).1

/-- Reads something of the host, unless its session is in use. -/
def ask {α : Type} (w : World) (read : Host → α) (otherwise : α) : World × α :=
  match w.host with
  | none => (w, otherwise)
  | some host =>
    if w.busy then (w.log "[modhost] Bridge busy, skipping read", otherwise)
    else (w, read host)

/-- The state of the module, and what else is shown after every step, while there is a host. -/
def summary? (w : World) : Option (String × String) :=
  w.host.map fun host => (host.stateText, host.statsText w.page)

end World

/-- The name of an encoding in reports. -/
def Transport.title : Transport → String
  | .plain => "Plain"
  | .structured => "Structured"

/-- Puts a host on a page. Yields the world, and what is thrown if that fails. -/
def Page.mount (page : Page) (configText : String) : World × Option PageValue :=
  match Config.parse configText with
  | .error e => ({ page }, some (.text (Failure.config e.message).message))
  | .ok config =>
    match page.findCanvas config.elements.canvas with
    | .error failure => ({ page }, some (.text failure.message))
    | .ok canvas =>
      let (page, parts) := page.findParts canvas config.elements
      match page.addListeners [] Host.pageListeners with
      | (page, some value) => ({ page }, some value)
      | (page, none) =>
        ({ page := page.log ("[modhost] Host ready, " ++ config.transport.title ++ " transport")
           host := some { parts, session := .new config } }, none)

end Embed
