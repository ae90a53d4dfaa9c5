import Embed.Host.Run
import Embed.Proofs.Page
/-!
# What a host hears is a signal

An event on the attached element and a report of a runtime reach a session on two ways that never
meet: the one through listeners, the other through calls. The laws here say that both end in the
same place: every event has a report that stands for it, every report is at most one signal, and
apart from lines on the console a host does nothing with it but tell its session.
-/

namespace Embed

/-- The signal that a call of the host tells the session. -/
def HostCall.signal? : HostCall → Option Signal
  | .handleMessage data => data.payload?.map .payload
  | .enterSoft => some .enterSoft
  | .leaveSoft => some .leaveSoft
  | .dependencies left => some (.life (.dependencies left))
  | .status text => some (.status text)
  | .print line => some (.print line)
  | .printError line => some (.print line)
  | .loadStart => some (.life .loadStart)
  | .progress computable loaded total =>
    some (.life (.progress (.ofEvent computable loaded total)))
  | .load => some (.life .load)
  | .error message => some (.life (.error message))
  | .crash => some (.life .crash)
  | _ => none

/-- The report of a runtime that an event on an element stands for. An event of progress without
counts reports counts that mean nothing, and a message without data reports nothing. -/
def PageEvent.report? (event : PageEvent) (page : Page) (id : String) : EventKind → Option HostCall
  | .loadStart => some .loadStart
  | .progress =>
    match event with
    | .progress computable loaded total => some (.progress computable loaded total)
    | _ => some (.progress false 0.0 0.0)
  | .load => some .load
  | .error => some (.error (World.lastError page id))
  | .crash => some .crash
  | .message =>
    match event with
    | .message data => some (.handleMessage data)
    | _ => none
  | _ => none

namespace World

/-- The signal that an event tells the session, once it reaches a listener. -/
def signal? (w : World) (target : Target) (kind : EventKind) (event : PageEvent) : Option Signal :=
  match kind with
  | .fullscreenChange => some (.fullscreenChange w.canvasIsFullscreen)
  | .resize => some .windowResize
  | kind => (event.report? w.page (targetId target) kind).bind HostCall.signal?

/-- The world after its session was told something, if there was something to tell. -/
def told (w : World) : Option Signal → World
  | some signal => w.inform signal
  | none => w

/-- A world without the trace of its page. -/
def untraced (w : World) : World :=
  { w with page := w.page.untraced }

/-- A line on the console only traces. -/
@[simp]
theorem untraced_log (w : World) (line : String) : (w.log line).untraced = w.untraced := rfl

/-- A line of errors on the console only traces. -/
@[simp]
theorem untraced_logError (w : World) (line : String) : (w.logError line).untraced = w.untraced :=
  rfl

/-- A failed load tells the session, and otherwise only traces. -/
theorem untraced_reportError (w : World) (message : String) :
    (w.reportError message).untraced = (w.inform (.life (.error message))).untraced := by
  unfold reportError inform
  split
  · rename_i told
    rw [told, untraced_logError]
  · rename_i told
    rw [told]

/-- A crash tells the session, and otherwise only traces. -/
theorem untraced_reportCrash (w : World) (exitStatus : Option Int) :
    (w.reportCrash exitStatus).untraced = (w.inform (.life .crash)).untraced := by
  unfold reportCrash inform
  split
  · rename_i told
    rw [told]
    cases exitStatus <;> rfl
  · rename_i told
    rw [told]

/-- A complete load tells the session, and otherwise only traces. -/
theorem untraced_reportLoad (w : World) :
    w.reportLoad.untraced = (w.inform (.life .load)).untraced := rfl

/-- Data on the message channel tells the session its payload, and otherwise only traces. -/
theorem untraced_receive (w : World) (data : PageValue) :
    (w.receive data).untraced = (w.told (data.payload?.map .payload)).untraced := by
  unfold receive
  cases data.payload? with
  | none => rfl
  | some payload =>
    dsimp only [Option.map_some, told, inform]
    split
    · rename_i told
      rw [told, untraced_log]
    · rename_i told
      rw [told]

/-- Data that has no payload only traces. -/
theorem untraced_receive_of_unreadable (w : World) {data : PageValue}
    (reports : (HostCall.handleMessage data).signal? = none) :
    (w.receive data).untraced = w.untraced := by
  have nothing : data.payload?.map Signal.payload = none := reports
  rw [untraced_receive, nothing]
  rfl

/-- An event tells the session the signal that it stands for, and otherwise only traces. -/
theorem untraced_handle (w : World) (target : Target) (kind : EventKind) (event : PageEvent) :
    (w.handle target kind event).untraced = (w.told (w.signal? target kind event)).untraced := by
  cases kind with
  | loadStart | fullscreenChange | resize | other => rfl
  | progress => cases event <;> rfl
  | load => exact untraced_reportLoad w
  | error => exact untraced_reportError w _
  | crash => exact untraced_reportCrash w _
  | message =>
    cases event with
    | message data => exact untraced_receive w data
    | plain | progress => rfl

/-- A line of errors on the console does not change what a signal does. -/
theorem untraced_inform_logError (w : World) (line : String) (signal : Signal) :
    ((w.logError line).inform signal).untraced = (w.inform signal).untraced := by
  unfold inform tell logError
  cases found : w.host with
  | none => simp [untraced, Page.untraced, Page.logError, Page.note, found]
  | some host =>
    cases busy : w.busy with
    | true =>
      simp [untraced, Page.untraced, Page.logError, Page.note, World.log, Page.log, found, busy]
    | false =>
      simp only [untraced, Bool.false_eq_true, ↓reduceIte, Page.untraced_applyAll]
      rfl

/-- A call of the host that is a report tells the session its signal, and otherwise only traces. -/
theorem untraced_callHost (take : World → Step → Ran) (w : World) (call : HostCall)
    (signal : Signal) (reports : call.signal? = some signal) :
    (w.callHost take call).world.untraced = (w.inform signal).untraced := by
  cases found : w.host with
  | none => simp [callHost, found, silently, inform, tell]
  | some host =>
    unfold callHost
    rw [found]
    cases call with
    | handleMessage data =>
      change (w.receive data).untraced = _
      rw [untraced_receive, show data.payload?.map Signal.payload = some signal from reports]
      rfl
    | printError line =>
      obtain rfl := Option.some.inj reports
      exact untraced_inform_logError w _ _
    | error message =>
      obtain rfl := Option.some.inj reports
      exact untraced_reportError w message
    | crash =>
      obtain rfl := Option.some.inj reports
      exact untraced_reportCrash w none
    | enterSoft | leaveSoft | dependencies | status | print | loadStart | progress | load =>
      obtain rfl := Option.some.inj reports
      rfl
    | attach | attachById | detach | drop | postMessage | postCommand | requestFullscreen | isSoft
    | stateText | statsText => contradiction

end World

end Embed
