import Embed.Host.Basic
/-!
# Events and reports that reach a host

Each event on the page, and each report of a runtime, becomes a signal to the session. What goes
wrong ends on the console; nothing is thrown back.
-/

namespace Embed.World

/-- The module's load failed. Only the failure that ended its life is reported. -/
def reportError (w : World) (message : String) : World :=
  match w.tell (.life (.error message)) with
  | (w, some (.failed failure)) => w.logError ("[modhost] " ++ failure.message)
  | (w, _) => w

/-- The module stopped unexpectedly, with an exit status if one is known. -/
def reportCrash (w : World) (exitStatus : Option Int) : World :=
  match w.tell (.life .crash) with
  | (w, some (.failed failure)) =>
    match exitStatus with
    | some status =>
      w.logError ("[modhost] " ++ failure.message ++ " (exit status " ++ Int.repr status ++ ")")
    | none => w.logError ("[modhost] " ++ failure.message)
  | (w, _) => w

/-- The module's load is complete. -/
def reportLoad (w : World) : World :=
  (w.inform (.life .load)).log "[modhost] Module loaded"

/-- Data arrived on the message channel. -/
def receive (w : World) (data : PageValue) : World :=
  match data.payload? with
  | none => w.logError "[modhost] Message payload is neither text nor serializable"
  | some payload =>
    match w.tell (.payload payload) with
    | (w, some (.decoded (.error e))) => w.log ("[modhost] " ++ e.message)
    | (w, _) => w

/-- The error that an element reports. -/
def lastError (page : Page) (id : String) : String :=
  match (page.property? id "lastError").bind PageValue.text? with
  | some message => if message.isEmpty then "unknown load error" else message
  | none => "unknown load error"

/-- The exit status that an element reports, cut to an integer of 32 bits. -/
def exitStatus? (page : Page) (id : String) : Option Int :=
  ((page.property? id "exitStatus").bind PageValue.number?).map
    (Decimal.truncateTo (-0x80000000) 0x7fffffff)

/-- The observation that an event carries. -/
def eventSample : PageEvent → Sample
  | .progress computable loaded total => .ofEvent computable loaded total
  | _ => {}

/-- The id of the element on which an event fired. -/
def targetId : Target → String
  | .element id => id
  | _ => ""

/-- Whether the host's canvas is fullscreen. -/
def canvasIsFullscreen (w : World) : Bool :=
  w.host.any fun host => w.page.fullscreenElement == some host.parts.canvas

/-- What the host does when an event reaches one of its listeners. -/
def handle (w : World) (target : Target) (kind : EventKind) (event : PageEvent) : World :=
  match kind with
  | .loadStart => w.inform (.life .loadStart)
  | .progress => w.inform (.life (.progress (eventSample event)))
  | .load => w.reportLoad
  | .error => w.reportError (lastError w.page (targetId target))
  | .crash => w.reportCrash (exitStatus? w.page (targetId target))
  | .message =>
    match event with
    | .message data => w.receive data
    | _ => w.log "[modhost] Ignoring 'message' event without data"
  | .fullscreenChange => w.inform (.fullscreenChange w.canvasIsFullscreen)
  | .resize => w.inform .windowResize
  | .other _ => w

/-- An event fires: every live listener for it is called. -/
def fire (w : World) (target : Target) (kind : EventKind) (event : PageEvent) : World :=
  (w.page.listenersFor target kind).foldl (fun w l => w.handle l.target l.kind event) w

end Embed.World
