import Embed.Host.Attachment
import Embed.Host.Events
import Embed.Message.Command
/-!
# Running a page with its host

A step may call a function of the page, whose script takes further steps, and so on. The step itself
is defined over any way to take such further steps; running ties the knot, a bounded number of calls
deep.
-/

namespace Embed

/-- What a step did: the world after it, its own result, and the results of the steps that scripts
took in the meantime, in the order in which they ended. -/
structure Ran where
  /-- The world after the step. -/
  world : World
  /-- What the step yields. -/
  result : Result := .done
  /-- What the steps of scripts yielded. -/
  nested : List Result := []

namespace World

/-- Takes steps in order. -/
def takeAll (take : World → Step → Ran) (w : World) (steps : List Step) : World × List Result :=
  steps.foldl (fun (w, results) step =>
    let ran := take w step
    (ran.world, results ++ ran.nested ++ [ran.result])) (w, [])

/-- What a call of a page's function did: the world after it, what its steps yielded, and what it
threw. -/
structure Called where
  /-- The world after the call. -/
  world : World
  /-- What the steps yielded. -/
  nested : List Result := []
  /-- What was thrown. -/
  raised : Option PageValue := none

/-- Calls an element's function for posted messages. -/
def callPost (take : World → Step → Ran) (w : World) (id : String) (hook : Hook)
    (payload : PageValue) : Called :=
  if hook.running then { world := w }
  else
    let page := (w.page.note (.postMessage id payload)).setPosting id true
    let (w, nested) := takeAll take { w with page } hook.script.steps
    { world := { w with page := w.page.setPosting id false }
      nested
      raised := hook.script.raised }

/-- Posts a value to the attached element. -/
def post (take : World → Step → Ran) (w : World) (payload : PageValue) : Ran :=
  match w.host.bind (·.attached) with
  | none => { world := w, result := .refused "no module attached" }
  | some id =>
    match w.page.postHook? id with
    | none =>
      { world := w
        result := .refused (Failure.platform "module has no postMessage").message }
    | some hook =>
      let called := callPost take w id hook payload
      { world := called.world
        nested := called.nested
        result :=
          match called.raised with
          | some value => .refused (Failure.platform value.describe).message
          | none => .done }

/-- Posts a command to the attached element. Its value has to be JSON. -/
def postCommand (take : World → Step → Ran) (w : World) (kind : String) (json : Option String) :
    Ran :=
  match json with
  | none => w.post take (.text (Command.text ⟨kind, none⟩))
  | some text =>
    match Json.parse text with
    | .ok v => w.post take (.text (Command.text ⟨kind, some v⟩))
    | .error e => { world := w, result := .refused ("invalid command value: " ++ e.message) }

/-- Calls an element's function for requests of fullscreen. Without one the request is granted. -/
def callFullscreen (take : World → Step → Ran) (w : World) (id : String) : Called :=
  let w := { w with page := w.page.note (.requestFullscreen id) }
  match (w.page.element? id).bind (·.onFullscreen) with
  | none => { world := w }
  | some hook =>
    if hook.running then { world := w }
    else
      let (w, nested) :=
        takeAll take { w with page := w.page.setRequesting id true } hook.script.steps
      { world := { w with page := w.page.setRequesting id false }
        nested
        raised := hook.script.raised }

/-- Changes the session of the host. -/
def mapSession (w : World) (f : Session → Session) : World :=
  { w with host := w.host.map fun host => { host with session := f host.session } }

/-- Requests the platform's fullscreen for the canvas. The session is in use until the platform has
answered, and is told when it refuses. -/
def requestFullscreen (take : World → Step → Ran) (w : World) : Ran :=
  match w.host with
  | none => { world := w }
  | some host =>
    if w.busy then
      { world := w.log "[modhost] Bridge busy, dropping re-entrant event"
        result := .refused (Failure.platform "bridge busy").message }
    else
      let canvas := host.parts.canvas
      let asked := w.mapSession (·.beginRequest (w.page.canvasSize canvas))
      let called := callFullscreen take { asked with busy := true } canvas
      let answered := { called.world with busy := false }
      match called.raised with
      | none => { world := answered, nested := called.nested }
      | some value =>
        { world := answered.mapSession Session.cancelRequest
          nested := called.nested
          result := .refused (Failure.platform value.describe).message }

/-- A call that yields nothing. -/
def silently (w : World) : Ran :=
  { world := w }

/-- What a call of the host does. Without a host it does nothing. -/
def callHost (take : World → Step → Ran) (w : World) (call : HostCall) : Ran :=
  match w.host with
  | none => w.silently
  | some _ =>
    match call with
    | .attach id => let (w, result) := w.attach id; { world := w, result }
    | .attachById id => let (w, result) := w.attachById id; { world := w, result }
    | .detach => w.detach.silently
    | .drop => w.drop.silently
    | .handleMessage data => (w.receive data).silently
    | .postMessage payload => w.post take payload
    | .postCommand kind json => w.postCommand take kind json
    | .requestFullscreen => w.requestFullscreen take
    | .enterSoft => (w.inform .enterSoft).silently
    | .leaveSoft => (w.inform .leaveSoft).silently
    | .isSoft =>
      let (w, soft) := w.ask (·.session.viewport.isSoft) false
      { world := w, result := .truth soft }
    | .stateText =>
      let (w, text) := w.ask (·.stateText) "\x7b\x7d"
      { world := w, result := .text text }
    | .statsText =>
      let (w, text) := w.ask (·.statsText w.page) "\x7b\x7d"
      { world := w, result := .text text }
    | .dependencies left => (w.inform (.life (.dependencies left))).silently
    | .status text => (w.inform (.status text)).silently
    | .print text => (w.inform (.print text)).silently
    | .printError text => ((w.logError ("[modhost] " ++ text)).inform (.print text)).silently
    | .loadStart => (w.inform (.life .loadStart)).silently
    | .progress computable loaded total =>
      (w.inform (.life (.progress (.ofEvent computable loaded total)))).silently
    | .load => w.reportLoad.silently
    | .error message => (w.reportError message).silently
    | .crash => (w.reportCrash none).silently

/-- Changes the page of a world. -/
def mapPage (w : World) (f : Page → Page) : World :=
  { w with page := f w.page }

/-- What a step does, over a way to take the steps of scripts. -/
def takeWith (take : World → Step → Ran) (w : World) : Step → Ran
  | .fire target kind event => (w.fire target kind event).silently
  | .setProperty id name value => (w.mapPage (·.setProperty id name value)).silently
  | .setThrow target call value =>
    (w.mapPage fun page =>
      { page with throwing := ((target, call), value) :: page.throwing }).silently
  | .onPostMessage id script =>
    (w.mapPage (·.modify id fun e => { e with onPost := some { script } })).silently
  | .onRequestFullscreen id script =>
    (w.mapPage (·.modify id fun e => { e with onFullscreen := some { script } })).silently
  | .setFullscreenElement id => (w.mapPage ({ · with fullscreenElement := id })).silently
  | .setWindowSize width height =>
    (w.mapPage ({ · with innerWidth := width, innerHeight := height })).silently
  | .removeWindow => (w.mapPage ({ · with hasWindow := false })).silently
  | .call call => w.callHost take call

/-- Takes a step in which calls of the page's functions nest at most `depth` deep. Deeper down,
scripts take no steps. -/
def take : (depth : Nat) → World → Step → Ran
  | 0 => takeWith fun w _ => { world := w }
  | depth + 1 => takeWith (take depth)

end World

end Embed
