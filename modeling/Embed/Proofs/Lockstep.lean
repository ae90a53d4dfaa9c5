import Embed.Proofs.Reentrance
/-!
# A host in lockstep with a recording

Where the functions of a page take no steps, every step demands at most one thing of the host. Then
the host and a recording can be run side by side: before each step the recorded window takes the
size of the page's, and then the recording does the operation that the step demands. However many
elements are missing, of another kind or throw, both are in one state after every step, because all
that a session reads of its page is the size of canvas and window.
-/

namespace Embed

/-- The functions of an element take no steps. They may throw. -/
def Element.Scriptless (e : Element) : Prop :=
  (∀ hook, e.onPost = some hook → hook.script.steps = []) ∧
    ∀ hook, e.onFullscreen = some hook → hook.script.steps = []

/-- The functions of a page take no steps. -/
def Page.Scriptless (page : Page) : Prop :=
  ∀ e ∈ page.elements, e.Scriptless

/-- A function that a step gives to an element takes no steps. -/
def Step.Scriptless : Step → Prop
  | .onPostMessage _ script => script.steps = []
  | .onRequestFullscreen _ script => script.steps = []
  | _ => True

namespace Page

variable {page : Page}

/-- What is found on a page whose functions take no steps has no function that does. -/
theorem scriptless_element? (quiet : page.Scriptless) {id : String} {e : Element}
    (found : page.element? id = some e) : e.Scriptless :=
  quiet e (List.mem_of_find?_eq_some found)

/-- A change of elements that gives them no function with steps leaves the page without any. -/
theorem scriptless_modify (quiet : page.Scriptless) (id : String) (f : Element → Element)
    (keeps : ∀ e, e.Scriptless → (f e).Scriptless) : (page.modify id f).Scriptless := by
  intro e member
  obtain ⟨before, present, rfl⟩ := List.mem_map.mp member
  split
  · exact keeps before (quiet before present)
  · exact quiet before present

/-- Marking a function for messages gives no element another. -/
theorem scriptless_setPosting (quiet : page.Scriptless) (id : String) (running : Bool) :
    (page.setPosting id running).Scriptless := by
  apply scriptless_modify quiet
  intro e kept
  refine ⟨fun hook given => ?_, kept.2⟩
  obtain ⟨before, present, rfl⟩ := Option.map_eq_some_iff.mp given
  exact kept.1 before present

/-- Marking a function for fullscreen gives no element another. -/
theorem scriptless_setRequesting (quiet : page.Scriptless) (id : String) (running : Bool) :
    (page.setRequesting id running).Scriptless := by
  apply scriptless_modify quiet
  intro e kept
  refine ⟨kept.1, fun hook given => ?_⟩
  obtain ⟨before, present, rfl⟩ := Option.map_eq_some_iff.mp given
  exact kept.2 before present

/-- Carrying out effects gives no element a function. -/
theorem scriptless_applyAll (quiet : page.Scriptless) (parts : Parts) (echo : Bool)
    (effects : List Effect) : (page.applyAll parts echo effects).Scriptless := by
  induction effects generalizing page with
  | nil => exact quiet
  | cons effect effects ih =>
    have elements := congrArg Page.elements (untraced_apply page parts echo effect)
    change (page.apply parts echo effect).elements =
      (page.sized parts.canvas effect.canvas?).elements at elements
    have sized : (page.sized parts.canvas effect.canvas?).Scriptless := by
      cases effect.canvas? with
      | none => exact quiet
      | some size => exact scriptless_modify quiet parts.canvas _ fun _ kept => kept
    have first : (page.apply parts echo effect).Scriptless := by
      unfold Scriptless
      rw [elements]
      exact sized
    exact ih first

end Page

namespace World

variable {w w' : World}

/-- What leaves the elements alone gives them no function. -/
theorem scriptless_of_elements (same : w'.page.elements = w.page.elements)
    (quiet : w.page.Scriptless) : w'.page.Scriptless := by
  unfold Page.Scriptless
  rw [same]
  exact quiet

/-- What only traces gives no element a function. -/
theorem scriptless_of_untraced (same : w'.untraced = w.untraced) (quiet : w.page.Scriptless) :
    w'.page.Scriptless := by
  have elements := congrArg (fun w => w.page.elements) same
  exact scriptless_of_elements elements quiet

/-- A signal gives no element a function. -/
theorem scriptless_inform (quiet : w.page.Scriptless) (signal : Signal) :
    (w.inform signal).page.Scriptless := by
  unfold inform tell
  cases w.host with
  | none => exact quiet
  | some host =>
    cases w.busy with
    | true => exact quiet
    | false => exact Page.scriptless_applyAll quiet host.parts _ _

/-- An event gives no element a function. -/
theorem scriptless_fire (quiet : w.page.Scriptless) (target : Target) (kind : EventKind)
    (event : PageEvent) : (w.fire target kind event).page.Scriptless := by
  have heard : ∀ (w : World) (l : Listener), w.page.Scriptless →
      (w.handle l.target l.kind event).page.Scriptless := by
    intro w l quiet
    apply scriptless_of_untraced (untraced_handle w l.target l.kind event)
    cases w.signal? l.target l.kind event with
    | none => exact quiet
    | some signal => exact scriptless_inform quiet signal
  unfold fire
  induction w.page.listenersFor target kind generalizing w with
  | nil => exact quiet
  | cons l rest ih => exact ih (heard w l quiet)

/-- A function for messages that a post would run takes no steps. -/
theorem posting?_of_scriptless (quiet : w.page.Scriptless) {id : String} {hook : Hook}
    (posting : w.posting? = some (id, hook)) : hook.script.steps = [] := by
  unfold posting? at posting
  cases attached : w.host.bind (·.attached) with
  | none => simp [attached] at posting
  | some held =>
    simp only [attached] at posting
    cases found : w.page.postHook? held with
    | none => simp [found] at posting
    | some given =>
      have same : given = hook := by
        simp only [found] at posting
        split at posting
        · contradiction
        · exact (Prod.mk.inj (Option.some.inj posting)).2
      unfold Page.postHook? at found
      split at found
      · contradiction
      · obtain ⟨e, present, given⟩ := Option.bind_eq_some_iff.mp found
        rw [← same]
        exact (Page.scriptless_element? quiet present).1 _ given

/-- A function for fullscreen that a request would run takes no steps. -/
theorem requesting?_of_scriptless (quiet : w.page.Scriptless) {canvas : String} {hook : Hook}
    (requesting : w.requesting? canvas = some hook) : hook.script.steps = [] := by
  unfold requesting? at requesting
  cases found : (w.page.element? canvas).bind (·.onFullscreen) with
  | none => simp [found] at requesting
  | some given =>
    have same : given = hook := by
      simp only [found] at requesting
      split at requesting
      · contradiction
      · exact Option.some.inj requesting
    obtain ⟨e, present, given⟩ := Option.bind_eq_some_iff.mp found
    rw [← same]
    exact (Page.scriptless_element? quiet present).2 _ given

/-- A function that a step would run takes no steps. -/
theorem frame?_of_scriptless (quiet : w.page.Scriptless) {step : Step} {frame : Frame}
    (runs : w.frame? step = some frame) : frame.steps = [] := by
  unfold frame? at runs
  split at runs
  · split at runs
    · contradiction
    · obtain ⟨host, -, requested⟩ := Option.bind_eq_some_iff.mp runs
      obtain ⟨hook, requesting, rfl⟩ := Option.map_eq_some_iff.mp requested
      exact requesting?_of_scriptless quiet requesting
  · obtain ⟨payload, -, posted⟩ := Option.bind_eq_some_iff.mp runs
    obtain ⟨found, posting, rfl⟩ := Option.map_eq_some_iff.mp posted
    exact posting?_of_scriptless quiet posting
  · contradiction

/-- Without functions that take steps, the journal of a step is what the step itself demands. -/
theorem journalWith_of_scriptless (quiet : w.page.Scriptless) (take : World → Step → Ran)
    (journal : Bool → World → Step → List Entry) (shielded : Bool) (step : Step) :
    journalWith take journal shielded w step =
      ((w.demand? step).map fun demand =>
        w.entry shielded demand (takeWith take w step).result).toList := by
  have silent : journalFrame take journal shielded (w.frame? step) = [] := by
    cases runs : w.frame? step with
    | none => rfl
    | some frame =>
      simp only [journalFrame]
      rw [frame?_of_scriptless quiet runs]
      rfl
  unfold journalWith
  rw [silent]
  exact List.append_nil _

/-- Without functions that take steps, the journal of a step is what the step itself demands,
however deep functions may nest. -/
theorem journal_of_scriptless (quiet : w.page.Scriptless) (depth : Nat) (shielded : Bool)
    (step : Step) :
    journal depth shielded w step =
      ((w.demand? step).map fun demand =>
        w.entry shielded demand (take depth w step).result).toList := by
  cases depth with
  | zero => exact journalWith_of_scriptless quiet _ _ shielded step
  | succ depth => exact journalWith_of_scriptless quiet _ _ shielded step

/-- A post gives no element a function. -/
theorem scriptless_post (quiet : w.page.Scriptless) (take : World → Step → Ran)
    (payload : PageValue) : (w.post take payload).world.page.Scriptless := by
  rw [world_post]
  cases posting : w.posting? with
  | none => exact quiet
  | some found =>
    have noted : (w.page.note (.postMessage found.1 payload)).Scriptless := quiet
    simp only [posting?_of_scriptless quiet posting]
    exact Page.scriptless_setPosting (Page.scriptless_setPosting noted found.1 true) found.1 false

/-- A request gives no element a function. -/
theorem scriptless_requestFullscreen (quiet : w.page.Scriptless) (take : World → Step → Ran) :
    (w.requestFullscreen take).world.page.Scriptless := by
  cases present : w.host with
  | none =>
    simp only [requestFullscreen, present]
    exact quiet
  | some host =>
    cases busy : w.busy with
    | true =>
      simp only [requestFullscreen, present, busy]
      exact quiet
    | false =>
      rw [(requestFullscreen_eq take w host present busy).1]
      have ended : ∀ (w : World) refused, w.page.Scriptless →
          (w.endRequest refused).page.Scriptless := by
        intro w refused quiet
        cases refused <;> exact quiet
      apply ended
      have begun : (w.beginRequest host.parts.canvas).page.Scriptless := quiet
      cases requesting : w.requesting? host.parts.canvas with
      | none => exact begun
      | some hook =>
        have entered := Page.scriptless_setRequesting begun host.parts.canvas true
        simp only [afterRequest, requesting?_of_scriptless quiet requesting]
        exact Page.scriptless_setRequesting entered host.parts.canvas false

/-- A call of the host gives no element a function. -/
theorem scriptless_callHost (quiet : w.page.Scriptless) (take : World → Step → Ran)
    (call : HostCall) : (w.callHost take call).world.page.Scriptless := by
  cases reports : call.signal? with
  | some signal =>
    exact scriptless_of_untraced (untraced_callHost take w call signal reports)
      (scriptless_inform quiet signal)
  | none =>
    unfold callHost
    cases present : w.host with
    | none => exact quiet
    | some host =>
      cases call with
      | attach id => exact scriptless_of_elements (attach_kept w id).2.1 quiet
      | attachById id =>
        change (w.attachById id).1.page.Scriptless
        unfold attachById
        rw [present]
        dsimp only
        split
        · exact quiet
        · split
          · exact scriptless_of_elements (attach_kept w id).2.1 quiet
          · exact quiet
      | detach => exact scriptless_of_elements (detach_kept w).2.1 quiet
      | drop =>
        have elements : w.drop.page.elements = w.page.elements := by
          unfold drop
          rw [present]
          exact Page.elements_dropListeners _ _
        exact scriptless_of_elements elements quiet
      | postMessage payload => exact scriptless_post quiet take payload
      | postCommand kind json =>
        change (w.postCommand take kind json).world.page.Scriptless
        rw [world_postCommand]
        cases (HostCall.postCommand kind json).posted? with
        | none => exact quiet
        | some payload => exact scriptless_post quiet take payload
      | requestFullscreen => exact scriptless_requestFullscreen quiet take
      | isSoft | stateText | statsText =>
        simp only [ask, present]
        cases w.busy <;> exact quiet
      | handleMessage data =>
        exact scriptless_of_untraced (untraced_receive_of_unreadable w reports) quiet
      | enterSoft | leaveSoft | dependencies | status | print | printError | loadStart | progress
      | load | error | crash => contradiction

/-- A step that gives no element a function with steps leaves the page without any. -/
theorem scriptless_takeWith (quiet : w.page.Scriptless) (take : World → Step → Ran) (step : Step)
    (idle : step.Scriptless) : (takeWith take w step).world.page.Scriptless := by
  cases step with
  | fire target kind event => exact scriptless_fire quiet target kind event
  | call call => exact scriptless_callHost quiet take call
  | setProperty id name value =>
    apply Page.scriptless_modify quiet
    intro e kept
    refine ⟨fun hook given => ?_, kept.2⟩
    dsimp only at given
    split at given
    · contradiction
    · exact kept.1 hook given
  | onPostMessage id script =>
    apply Page.scriptless_modify quiet
    intro e kept
    refine ⟨fun hook given => ?_, kept.2⟩
    obtain rfl := Option.some.inj given
    exact idle
  | onRequestFullscreen id script =>
    apply Page.scriptless_modify quiet
    intro e kept
    refine ⟨kept.1, fun hook given => ?_⟩
    obtain rfl := Option.some.inj given
    exact idle
  | setThrow | setFullscreenElement | setWindowSize | removeWindow => exact quiet

/-- A step that gives no element a function with steps leaves the page without any, however deep
functions may nest. -/
theorem scriptless_take (quiet : w.page.Scriptless) (depth : Nat) (step : Step)
    (idle : step.Scriptless) : (take depth w step).world.page.Scriptless := by
  cases depth with
  | zero => exact scriptless_takeWith quiet _ step idle
  | succ depth => exact scriptless_takeWith quiet _ step idle

/-- The operations of a recording that mirror a step: its page is brought up to date, and then it
does what the step demands. -/
def mirror (w : World) (step : Step) : List Recording.Operation :=
  .setWindow w.page.windowSize :: .setRefusal w.refusalText? ::
    ((w.demand? step).bind Demand.operation?).toList

/-- Takes a step, and mirrors it in a recording. -/
def lockstep (depth : Nat) (pair : World × Recording) (step : Step) : World × Recording :=
  ((take depth pair.1 step).world, pair.2.run (pair.1.mirror step))

/-- A world and a recording that agree, and will agree after every step. -/
structure InStep (w : World) (r : Recording) : Prop where
  /-- The host listens as it ought to. -/
  orderly : w.Orderly
  /-- The session is free. -/
  free : w.busy = false
  /-- The functions of the page take no steps. -/
  quiet : w.page.Scriptless
  /-- The host is in the state of the recording. -/
  agrees : w.Agrees r

variable {r : Recording}

/-- Only giving up the host demands that it goes. -/
theorem step_of_demand_drop {step : Step} (demands : w.demand? step = some .drop) :
    step = .call .drop := by
  cases step with
  | fire target kind event =>
    unfold demand? at demands
    dsimp only at demands
    split at demands
    · obtain ⟨signal, -, tells⟩ := Option.map_eq_some_iff.mp demands
      contradiction
    · contradiction
  | call call =>
    obtain ⟨host, -, drops⟩ := Option.bind_eq_some_iff.mp demands
    cases call with
    | drop => rfl
    | _ => simp [HostCall.demand?] at drops
  | _ => contradiction

/-- The mirror of a step does what the journal of the step does, as far as a host can tell. -/
theorem agrees_mirror (step : Step) (result : Result)
    (agrees : w'.Agrees (r.replay
      ((w.demand? step).map fun demand => w.entry false demand result).toList)) :
    w'.Agrees (r.run (w.mirror step)) := by
  unfold mirror
  cases demands : w.demand? step with
  | none =>
    -- The recorded page is brought up to date even where nothing is demanded.
    rw [demands] at agrees
    exact agrees_prepared agrees _ _
  | some demand =>
    rw [demands] at agrees
    change w'.Agrees (r.replay [w.entry false demand result]) at agrees
    rw [Recording.replay_cons] at agrees
    change w'.Agrees (r.run (w.entry false demand result).operations) at agrees
    rw [Option.bind_some]
    cases operates : demand.operation? with
    | none =>
      have silent : (w.entry false demand result).operations = [] := by
        simp [Entry.operations, entry, operates]
      rw [silent] at agrees
      exact agrees_prepared agrees _ _
    | some operation =>
      have same : (w.entry false demand result).operations =
          [.setWindow w.page.windowSize, .setRefusal w.refusalText?, operation] := by
        simp [Entry.operations, entry, operates]
      rw [same] at agrees
      exact agrees

/-- A step and its mirror keep host and recording in step, and the host stays unless it is given up.
-/
theorem inStep_lockstep (depth : Nat) (pair : InStep w r) (step : Step) (idle : step.Scriptless) :
    InStep (take depth w step).world (r.run (w.mirror step)) ∧
      (w.host.isSome → (take depth w step).world.host = none → step = .call .drop) := by
  have runs := replays_take depth false w step pair.orderly pair.free
  rw [journal_of_scriptless pair.quiet] at runs
  refine ⟨⟨runs.orderly, runs.busy, scriptless_take pair.quiet depth step idle, ?_⟩, ?_⟩
  · exact agrees_mirror step _ (runs.agrees r pair.agrees).1
  · intro present gone
    obtain ⟨e, member, dropped⟩ := runs.drops present gone
    obtain ⟨demand, demands, rfl⟩ := Option.map_eq_some_iff.mp (Option.mem_toList.mp member)
    rw [show demand = .drop from dropped] at demands
    exact step_of_demand_drop demands

/-- Steps and their mirrors keep host and recording in step, and the host stays unless it is given
up. -/
theorem inStep_run (depth : Nat) (pair : InStep w r) (steps : List Step)
    (idle : ∀ step ∈ steps, step.Scriptless) :
    let last := steps.foldl (lockstep depth) (w, r)
    InStep last.1 last.2 ∧ (w.host.isSome → last.1.host = none → .call .drop ∈ steps) := by
  induction steps generalizing w r with
  | nil =>
    refine ⟨pair, fun present gone => ?_⟩
    rw [show w.host = none from gone] at present
    contradiction
  | cons step rest ih =>
    obtain ⟨next, drops⟩ := inStep_lockstep depth pair step (idle step List.mem_cons_self)
    obtain ⟨last, stays⟩ := ih next fun other member => idle other (List.mem_cons_of_mem _ member)
    refine ⟨last, fun present gone => ?_⟩
    cases held : (take depth w step).world.host with
    | none =>
      rw [drops present held]
      exact List.mem_cons_self
    | some host => exact List.mem_cons_of_mem _ (stays (by rw [held]; rfl) gone)

/-- A report that stands for an event on an element. The host listens for the event, the event is
the signal of the report, and the report demands no more than that. -/
theorem report_signal (w : World) {event : PageEvent} {id : String} {kind : EventKind}
    {call : HostCall} (reports : event.report? w.page id kind = some call) :
    kind ∈ Host.moduleKinds ∧ w.signal? (.element id) kind event = call.signal? ∧
      call.demand? = call.signal?.map .tell := by
  have signal : w.signal? (.element id) kind event = call.signal? := by
    have told := congrArg (fun report => report.bind HostCall.signal?) reports
    cases kind with
    | fullscreenChange | resize => contradiction
    | _ => exact told
  cases kind with
  | loadStart | load | error | crash =>
    obtain rfl := Option.some.inj reports
    exact ⟨by decide, signal, rfl⟩
  | progress =>
    cases event <;> obtain rfl := Option.some.inj reports <;> exact ⟨by decide, signal, rfl⟩
  | message =>
    cases event with
    | message data =>
      obtain rfl := Option.some.inj reports
      exact ⟨by decide, signal, rfl⟩
    | plain | progress => contradiction
  | fullscreenChange | resize | other => contradiction

/-- A report that stands for an event tells the session what it reports, and otherwise only traces.
-/
theorem untraced_report (take : World → Step → Ran) (w : World) {event : PageEvent} {id : String}
    {kind : EventKind} {call : HostCall} (reports : event.report? w.page id kind = some call) :
    (w.callHost take call).world.untraced = (w.told call.signal?).untraced := by
  cases signals : call.signal? with
  | some signal => exact untraced_callHost take w call signal signals
  | none =>
    cases kind with
    | message =>
      cases event with
      | message data =>
        obtain rfl := Option.some.inj reports
        unfold callHost
        cases w.host with
        | none => rfl
        | some host => exact untraced_receive_of_unreadable w signals
      | plain | progress => contradiction
    | progress => cases event <;> obtain rfl := Option.some.inj reports <;> contradiction
    | loadStart | load | error | crash =>
      obtain rfl := Option.some.inj reports
      contradiction
    | fullscreenChange | resize | other => contradiction

/-- An event on the attached element and the report that stands for it have one mirror, and lead to
worlds that differ in their trace at most. -/
theorem fire_as_report (orderly : w.Orderly) {host : Host} (present : w.host = some host)
    {id : String} (attached : host.attached = some id) (depth : Nat) {event : PageEvent}
    {kind : EventKind} {call : HostCall} (reports : event.report? w.page id kind = some call) :
    w.mirror (.fire (.element id) kind event) = w.mirror (.call call) ∧
      (take depth w (.fire (.element id) kind event)).world.untraced =
        (take depth w (.call call)).world.untraced := by
  obtain ⟨known, signal, demand⟩ := report_signal w reports
  have listens : (Target.element id, kind) ∈ w.listening := by
    rw [listening_of_host present, attached]
    exact List.mem_append_right _ (List.mem_map_of_mem known)
  have same : w.demand? (.fire (.element id) kind event) = w.demand? (.call call) := by
    unfold demand?
    rw [present]
    dsimp only
    rw [if_pos listens, signal]
    exact demand.symm
  have heard : (w.fire (.element id) kind event).untraced = (w.told call.signal?).untraced := by
    rw [fire_of_orderly orderly, if_pos listens, untraced_handle, signal]
  refine ⟨?_, ?_⟩
  · unfold mirror
    rw [same]
  · cases depth with
    | zero => exact heard.trans (untraced_report _ w reports).symm
    | succ depth => exact heard.trans (untraced_report _ w reports).symm

/-- A host on a page whose functions take no steps runs in lockstep with a recording of its
configuration: after any steps, each of them mirrored in the recording, the sessions are equal and
the canvas has one size, as long as nobody has given up the host. Whenever an element is attached,
an event on it is mirrored as the report of a runtime that stands for it, and does the same to host
and page but for the trace. -/
theorem host_in_lockstep (page : Page) (unheard : page.live = []) (quiet : page.Scriptless)
    (text : String) (config : Config) (parsed : Config.parse text = .ok config)
    (mounted : (page.mount text).2 = none) (display : Display) (depth : Nat) (steps : List Step)
    (idle : ∀ step ∈ steps, step.Scriptless) :
    let start : Recording :=
      .new config { display with canvas := page.canvasSize config.elements.canvas }
    let last := steps.foldl (lockstep depth) ((page.mount text).1, start)
    (last.1.host = none → .call .drop ∈ steps) ∧
    ∀ host, last.1.host = some host →
      host.session = last.2.session ∧
      last.1.page.canvasSize host.parts.canvas = last.2.display.canvas ∧
      ∀ id kind event call, host.attached = some id →
        PageEvent.report? event last.1.page id kind = some call →
        last.1.mirror (.fire (.element id) kind event) = last.1.mirror (.call call) ∧
          (take depth last.1 (.fire (.element id) kind event)).world.untraced =
            (take depth last.1 (.call call)).world.untraced := by
  intro start last
  obtain ⟨_, _, -, -, -, hosted, free, elements, -⟩ := Page.mount_succeeded unheard mounted
  have begins : InStep (page.mount text).1 start :=
    { orderly := orderly_mount unheard text
      free := free
      quiet := fun e member => quiet e (elements ▸ member)
      agrees := agrees_mount unheard mounted parsed display }
  obtain ⟨pair, stays⟩ := inStep_run depth begins steps idle
  refine ⟨?_, fun host present => ?_⟩
  · apply stays
    rw [hosted]
    rfl
  · obtain ⟨-, session, canvas⟩ := pair.agrees host present
    refine ⟨session, canvas, fun id kind event call attached reports => ?_⟩
    exact fire_as_report pair.orderly present attached depth reports

/-- A module fails to load, its canvas is refused fullscreen and fills the window without it. -/
theorem host_in_lockstep_refused :
    let page : Page :=
      { elements :=
          [{ id := "canvas", tag := .canvas, size := ⟨800, 600⟩ }, { id := "module", tag := .plain }]
        innerWidth := .undefined
        innerHeight := .undefined }
    let steps : List Step :=
      [.call (.attach "module"), .fire (.element "module") .error .plain,
        .onRequestFullscreen "canvas" { raised := some .null }, .call .requestFullscreen,
        .call .enterSoft]
    let config : Config := {}
    let display := Display.standard
    let start : Recording :=
      .new config { display with canvas := page.canvasSize config.elements.canvas }
    let last := steps.foldl (lockstep 1) ((page.mount "").1, start)
    page.live = [] ∧ page.Scriptless ∧ Config.parse "" = .ok config ∧ (page.mount "").2 = none ∧
      (∀ step ∈ steps, step.Scriptless) ∧
      last.1.host.map (·.session.viewport.mode) = some .softFullscreen ∧
      ∀ host, last.1.host = some host → host.session = last.2.session := by
  intro page steps config display start last
  have quiet : page.Scriptless := by
    intro e member
    rcases List.mem_cons.mp member with rfl | other
    · exact ⟨fun _ given => by contradiction, fun _ given => by contradiction⟩
    · obtain rfl := List.mem_singleton.mp other
      exact ⟨fun _ given => by contradiction, fun _ given => by contradiction⟩
  have idle : ∀ step ∈ steps, step.Scriptless := by
    simp [steps, Step.Scriptless]
  obtain ⟨-, runs⟩ := host_in_lockstep page rfl quiet "" config rfl rfl display 1 steps idle
  refine ⟨rfl, quiet, rfl, rfl, idle, by decide +kernel, fun host present => ?_⟩
  unfold last start at present
  exact (runs host present).1

end World

end Embed
