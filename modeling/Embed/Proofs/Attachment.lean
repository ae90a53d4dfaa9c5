import Embed.Proofs.Mounting
import Embed.Proofs.Scripts
import Embed.Proofs.Signals
/-!
# A host listens on its page and on one element

A world is orderly when the live listeners of its page are those that its host ought to have.
Telling a session something and changing a page leave listeners and attachment alone; attaching,
detaching and giving up the host change both together. So every step of an orderly world ends in an
orderly world, and steps that scripts take in between do as well.
-/

namespace Embed.World

/-- What a host ought to listen for: fullscreen on the document, the size on the window, and the
life and the messages of the module on the attached element. -/
def listening (w : World) : List (Target × EventKind) :=
  match w.host.map (·.attached) with
  | none => []
  | some attached =>
    [(.document, .fullscreenChange), (.window, .resize)] ++
      match attached with
      | none => []
      | some id =>
        [.loadStart, .progress, .load, .error, .crash, .message].map fun kind => (.element id, kind)

/-- The live listeners are those that the host ought to have, each of them once. -/
def Orderly (w : World) : Prop :=
  w.page.live = w.listening

/-- What order is about: the listeners of the page, and the attachment of the host. -/
def standing (w : World) : List Listener × Option (Option String) :=
  (w.page.listeners, w.host.map (·.attached))

variable {w w' : World}

/-- What leaves listeners and attachment alone keeps order. -/
theorem orderly_of_standing (same : w'.standing = w.standing) (orderly : w.Orderly) :
    w'.Orderly := by
  have listeners : w'.page.listeners = w.page.listeners := congrArg Prod.fst same
  have attached : w'.host.map (·.attached) = w.host.map (·.attached) := congrArg Prod.snd same
  unfold Orderly listening Page.live at *
  rw [listeners, attached]
  exact orderly

/-- What only traces leaves listeners and attachment alone. -/
theorem standing_of_untraced (same : w'.untraced = w.untraced) : w'.standing = w.standing := by
  have standings := congrArg standing same
  exact standings

/-- A signal leaves listeners and attachment alone. -/
theorem standing_inform (w : World) (signal : Signal) : (w.inform signal).standing = w.standing := by
  unfold inform tell
  cases found : w.host with
  | none => rfl
  | some host =>
    cases w.busy with
    | true => rfl
    | false =>
      have listeners := Page.listeners_of_settings
        (Page.settings_applyAll w.page host.parts host.session.config.echoToConsole
          (host.session.receiveSignal (host.geometry w.page) signal).effects)
      simp [standing, listeners, found]

/-- A signal, if there is one, leaves listeners and attachment alone. -/
theorem standing_told (w : World) (signal : Option Signal) :
    (w.told signal).standing = w.standing := by
  cases signal with
  | none => rfl
  | some signal => exact standing_inform w signal

/-- An event that is heard leaves listeners and attachment alone. -/
theorem standing_handle (w : World) (target : Target) (kind : EventKind) (event : PageEvent) :
    (w.handle target kind event).standing = w.standing := by
  rw [standing_of_untraced (untraced_handle w target kind event), standing_told]

/-- An event leaves listeners and attachment alone. -/
theorem standing_fire (w : World) (target : Target) (kind : EventKind) (event : PageEvent) :
    (w.fire target kind event).standing = w.standing := by
  unfold fire
  induction w.page.listenersFor target kind generalizing w with
  | nil => rfl
  | cons l rest ih => rw [List.foldl_cons, ih, standing_handle]

/-- A change of the session leaves listeners and attachment alone. -/
theorem standing_mapSession (w : World) (f : Session → Session) :
    (w.mapSession f).standing = w.standing := by
  unfold standing mapSession
  cases w.host <;> rfl

/-- The begin of a request leaves listeners and attachment alone. -/
theorem standing_beginRequest (w : World) (canvas : String) :
    (w.beginRequest canvas).standing = w.standing := by
  have kept := standing_mapSession w (·.beginRequest (w.page.canvasSize canvas))
  exact kept

/-- The end of a request leaves listeners and attachment alone. -/
theorem standing_endRequest (w : World) (refused : Bool) :
    (w.endRequest refused).standing = w.standing := by
  cases refused with
  | true => exact standing_mapSession { w with busy := false } Session.cancelRequest
  | false => rfl

/-- A question leaves listeners and attachment alone. -/
theorem standing_ask {α : Type} (w : World) (read : Host → α) (otherwise : α) :
    (w.ask read otherwise).1.standing = w.standing := by
  unfold ask
  cases w.host with
  | none => rfl
  | some host => cases w.busy <;> rfl

/-- What a host with a known attachment ought to listen for. -/
theorem listening_of_host {host : Host} (present : w.host = some host) :
    w.listening = Host.pageListeners ++ (host.attached.map Host.moduleListeners).getD [] := by
  unfold listening
  rw [present]
  cases attached : host.attached <;> simp [attached] <;> rfl

/-- The listeners on an element are none of those on the page. -/
theorem moduleListeners_apart (id : String) :
    ∀ entry ∈ Host.moduleListeners id, entry ∉ Host.pageListeners := by
  intro entry member
  obtain ⟨kind, -, rfl⟩ := List.mem_map.mp member
  simp [Host.pageListeners]

/-- After detaching, the host is attached to nothing and only the listeners on the page are live. -/
theorem detach_eq {host : Host} (orderly : w.Orderly) (present : w.host = some host) :
    w.detach.host = some { host with attached := none } ∧
      w.detach.page.live = Host.pageListeners := by
  unfold Orderly at orderly
  rw [listening_of_host present] at orderly
  unfold detach
  rw [present]
  cases attached : host.attached with
  | none =>
    simp only [attached] at orderly ⊢
    refine ⟨?_, by simpa using orderly⟩
    rw [present, ← attached]
  | some id =>
    simp only [attached, Option.map_some, Option.getD_some] at orderly ⊢
    refine ⟨trivial, ?_⟩
    rw [Page.live_dropListeners, Page.live_log, orderly]
    exact Page.foldl_erase_append _ _ (moduleListeners_apart id)

/-- Detaching does not change which calls throw. -/
theorem thrown?_detach (w : World) (on : Target) (call : PageCall) :
    w.detach.page.thrown? on call = w.page.thrown? on call := by
  unfold detach
  cases w.host with
  | none => rfl
  | some host =>
    dsimp only
    cases host.attached with
    | none => rfl
    | some id =>
      dsimp only
      rw [Page.thrown?_dropListeners]
      rfl

/-- Detaching keeps order. -/
theorem orderly_detach (orderly : w.Orderly) : w.detach.Orderly := by
  cases present : w.host with
  | none =>
    unfold detach
    rw [present]
    exact orderly
  | some host =>
    obtain ⟨kept, live⟩ := detach_eq orderly present
    unfold Orderly
    rw [live, listening_of_host kept]
    rfl

/-- Attaching either succeeds, and then the listeners on the element are live behind those on the
page, or fails, and then none on any element is live and the host is attached to nothing. -/
theorem attach_cases {host : Host} (orderly : w.Orderly) (present : w.host = some host)
    (id : String) :
    ((w.attach id).2 = .done ∧
      (w.attach id).1.host = some { host with attached := some id } ∧
      (w.attach id).1.page.live = Host.pageListeners ++ Host.moduleListeners id) ∨
    (∃ value, (w.attach id).2 = .raised value ∧
      (w.attach id).1.host = some { host with attached := none } ∧
      (w.attach id).1.page.live = Host.pageListeners) := by
  obtain ⟨kept, live⟩ := detach_eq orderly present
  -- The element before is let go first, so what is added here is all there is behind the page's own.
  have heard : w.detach.page.live = Host.pageListeners ++ [] := by rw [live, List.append_nil]
  have added := Page.live_addListeners w.detach.page Host.pageListeners [] (Host.moduleListeners id)
    heard (moduleListeners_apart id)
  unfold attach
  simp only [kept]
  cases outcome : w.detach.page.addListeners [] (Host.moduleListeners id) with
  | mk page raised =>
    rw [outcome] at added
    cases raised with
    | none => exact Or.inl ⟨rfl, rfl, by simpa using added⟩
    | some value => exact Or.inr ⟨value, rfl, rfl, by simpa using added⟩

/-- Attaching keeps order, also where it fails. -/
theorem orderly_attach (orderly : w.Orderly) (id : String) : (w.attach id).1.Orderly := by
  cases present : w.host with
  | none =>
    unfold attach detach
    simp only [present]
    exact orderly
  | some host =>
    rcases attach_cases orderly present id with ⟨-, kept, live⟩ | ⟨value, -, kept, live⟩
    · unfold Orderly
      rw [live, listening_of_host kept]
      rfl
    · unfold Orderly
      rw [live, listening_of_host kept]
      rfl

/-- Attaching what has to be looked up keeps order. -/
theorem orderly_attachById (orderly : w.Orderly) (id : String) : (w.attachById id).1.Orderly := by
  unfold attachById
  cases w.host with
  | none => exact orderly
  | some host =>
    dsimp only
    split
    · exact orderly_of_standing rfl orderly
    · split
      · exact orderly_attach orderly id
      · exact orderly

/-- Giving up the host leaves no live listener. -/
theorem live_drop (orderly : w.Orderly) : w.drop.page.live = [] ∧ w.drop.host = none := by
  unfold Orderly at orderly
  cases present : w.host with
  | none =>
    unfold drop
    rw [present]
    unfold listening at orderly
    rw [present] at orderly
    exact ⟨orderly, present⟩
  | some host =>
    rw [listening_of_host present] at orderly
    unfold drop
    rw [present]
    refine ⟨?_, rfl⟩
    dsimp only
    rw [Page.live_dropListeners, orderly, List.foldl_append]
    have apart : ∀ entry ∈ (host.attached.map Host.moduleListeners).getD [],
        entry ∉ Host.pageListeners := by
      cases host.attached with
      | none => simp
      | some id => exact moduleListeners_apart id
    rw [Page.foldl_erase_append _ _ apart]
    rfl

/-- Giving up the host keeps order. -/
theorem orderly_drop (orderly : w.Orderly) : w.drop.Orderly := by
  obtain ⟨live, gone⟩ := live_drop orderly
  unfold Orderly listening
  rw [live, gone]
  rfl

section Steps

variable {take : World → Step → Ran}
  (keeps : ∀ w step, w.Orderly → (take w step).world.Orderly)

include keeps

/-- A post keeps order if the steps of scripts do. -/
theorem orderly_post (orderly : w.Orderly) (payload : PageValue) :
    (w.post take payload).world.Orderly := by
  rw [world_post]
  cases w.posting? with
  | none => exact orderly
  | some found =>
    have begun : (w.beginPost found.1 payload).Orderly := orderly_of_standing rfl orderly
    have ended := after_keeps keeps _ found.2.script.steps begun
    exact orderly_of_standing rfl ended

/-- A request keeps order if the steps of scripts do. -/
theorem orderly_requestFullscreen (orderly : w.Orderly) :
    (w.requestFullscreen take).world.Orderly := by
  cases present : w.host with
  | none =>
    simp only [requestFullscreen, present]
    exact orderly
  | some host =>
    cases busy : w.busy with
    | true =>
      simp only [requestFullscreen, present, busy]
      exact orderly_of_standing rfl orderly
    | false =>
      rw [(requestFullscreen_eq take w host present busy).1]
      have begun : (w.beginRequest host.parts.canvas).Orderly :=
        orderly_of_standing (standing_beginRequest w _) orderly
      have ended : ((w.beginRequest host.parts.canvas).afterRequest take host.parts.canvas
          (w.requesting? host.parts.canvas)).Orderly := by
        cases w.requesting? host.parts.canvas with
        | none => exact begun
        | some hook =>
          have entered : ((w.beginRequest host.parts.canvas).mapPage
              (·.setRequesting host.parts.canvas true)).Orderly := orderly_of_standing rfl begun
          exact orderly_of_standing rfl (after_keeps keeps _ hook.script.steps entered)
      exact orderly_of_standing (standing_endRequest _ _) ended

/-- A call of the host keeps order if the steps of scripts do. -/
theorem orderly_callHost (orderly : w.Orderly) (call : HostCall) :
    (w.callHost take call).world.Orderly := by
  cases reports : call.signal? with
  | some signal =>
    have told := standing_of_untraced (untraced_callHost take w call signal reports)
    exact orderly_of_standing (told.trans (standing_inform w signal)) orderly
  | none =>
    cases present : w.host with
    | none =>
      simp only [callHost, present]
      exact orderly
    | some host =>
      unfold callHost
      rw [present]
      cases call with
      | attach id => exact orderly_attach orderly id
      | attachById id => exact orderly_attachById orderly id
      | detach => exact orderly_detach orderly
      | drop => exact orderly_drop orderly
      | postMessage payload => exact orderly_post keeps orderly payload
      | postCommand kind json =>
        change (w.postCommand take kind json).world.Orderly
        rw [world_postCommand]
        cases (HostCall.postCommand kind json).posted? with
        | none => exact orderly
        | some payload => exact orderly_post keeps orderly payload
      | requestFullscreen => exact orderly_requestFullscreen keeps orderly
      | isSoft | stateText | statsText =>
        exact orderly_of_standing (standing_ask w _ _) orderly
      | handleMessage data =>
        have received := untraced_receive_of_unreadable w reports
        exact orderly_of_standing (standing_of_untraced received) orderly
      | enterSoft | leaveSoft | dependencies | status | print | printError | loadStart | progress
      | load | error | crash => contradiction

/-- A step keeps order if the steps of scripts do. -/
theorem orderly_takeWith (orderly : w.Orderly) (step : Step) :
    (takeWith take w step).world.Orderly := by
  cases step with
  | fire target kind event => exact orderly_of_standing (standing_fire w target kind event) orderly
  | call call => exact orderly_callHost keeps orderly call
  | setProperty | setThrow | onPostMessage | onRequestFullscreen | setFullscreenElement
  | setWindowSize | removeWindow => exact orderly_of_standing rfl orderly

end Steps

/-- Every step keeps order, however deep its scripts nest. -/
theorem orderly_take (depth : Nat) (w : World) (step : Step) (orderly : w.Orderly) :
    (take depth w step).world.Orderly := by
  induction depth generalizing w step with
  | zero => exact orderly_takeWith (fun _ _ kept => kept) orderly step
  | succ depth ih => exact orderly_takeWith ih orderly step

/-- A host that was put on a page on which nothing listened is orderly. -/
theorem orderly_mount {page : Page} (unheard : page.live = []) (text : String) :
    (page.mount text).1.Orderly := by
  unfold Orderly
  cases raised : (page.mount text).2 with
  | some value =>
    have failed : (page.mount text).2.isSome := by rw [raised]; rfl
    obtain ⟨gone, live⟩ := Page.mount_failed unheard failed
    unfold listening
    rw [live, gone]
    rfl
  | none =>
    obtain ⟨config, parts, -, -, -, present, -, -, live⟩ := Page.mount_succeeded unheard raised
    rw [live, listening_of_host present]
    rfl

/-- A host ought to listen for nothing twice. -/
theorem listening_nodup (w : World) : w.listening.Nodup := by
  unfold listening
  cases w.host.map (·.attached) with
  | none => simp
  | some attached => cases attached <;> simp

/-- In an orderly world an event is heard once if the host listens for it, and otherwise not. -/
theorem fire_of_orderly (orderly : w.Orderly) (target : Target) (kind : EventKind)
    (event : PageEvent) :
    w.fire target kind event =
      if (target, kind) ∈ w.listening then w.handle target kind event else w := by
  have many := Page.length_listenersFor w.page target kind
  rw [show w.page.live = w.listening from orderly, w.listening_nodup.count] at many
  by_cases listens : (target, kind) ∈ w.listening
  · rw [if_pos listens] at many
    obtain ⟨l, only⟩ := List.length_eq_one_iff.mp many
    have member : l ∈ w.page.listenersFor target kind := by simp [only]
    have hears := (Listener.listensFor_iff target kind l).mp (List.mem_filter.mp member).2
    obtain ⟨rfl, rfl⟩ := Prod.mk.inj hears.2
    rw [if_pos listens]
    unfold fire
    rw [only]
    rfl
  · rw [if_neg listens] at many
    rw [if_neg listens]
    unfold fire
    rw [List.length_eq_zero_iff.mp many]
    rfl

/-- A step, before which it changes which calls throw. -/
structure Turn where
  /-- The calls that throw from then on. -/
  throwing : List ((Target × PageCall) × PageValue)
  /-- The step. -/
  step : Step

/-- Takes a step after a change of which calls throw. -/
def turn (depth : Nat) (w : World) (t : Turn) : World :=
  (take depth (w.mapPage ({ · with throwing := t.throwing })) t.step).world

/-- Order lasts through any steps, whatever throws in between. -/
theorem orderly_turns (depth : Nat) (orderly : w.Orderly) (turns : List Turn) :
    (turns.foldl (turn depth) w).Orderly := by
  induction turns generalizing w with
  | nil => exact orderly
  | cons first rest ih =>
    have changed : (w.mapPage ({ · with throwing := first.throwing })).Orderly :=
      orderly_of_standing rfl orderly
    exact ih (orderly_take depth _ first.step changed)

/-- Attaching fails with what the first addition that throws throws. -/
theorem attach_of_thrown {host : Host} (orderly : w.Orderly) (present : w.host = some host)
    (id : String) (earlier later : List EventKind) (kind : EventKind) (value : PageValue)
    (kinds : Host.moduleKinds = earlier ++ kind :: later)
    (quiet : ∀ k ∈ earlier, w.page.thrown? (.element id) (.add k) = none)
    (throws : w.page.thrown? (.element id) (.add kind) = some value) :
    (w.attach id).2 = .raised value := by
  obtain ⟨kept, -⟩ := detach_eq orderly present
  have listeners : Host.moduleListeners id =
      earlier.map (fun k => (Target.element id, k)) ++
        (Target.element id, kind) :: later.map (fun k => (Target.element id, k)) := by
    unfold Host.moduleListeners
    rw [kinds, List.map_append, List.map_cons]
  have fails : (w.detach.page.addListeners [] (Host.moduleListeners id)).2 = some value := by
    rw [listeners]
    apply Page.addListeners_of_thrown
    · intro entry member
      obtain ⟨k, inside, rfl⟩ := List.mem_map.mp member
      rw [thrown?_detach]
      exact quiet k inside
    · rw [thrown?_detach]
      exact throws
  unfold attach
  simp only [kept]
  cases outcome : w.detach.page.addListeners [] (Host.moduleListeners id) with
  | mk page raised =>
    rw [outcome] at fails
    obtain rfl : raised = some value := fails
    rfl

/-- An element that is not found leaves attachment and live listeners as they were. -/
theorem attachById_of_missing (w : World) (id : String) (missing : w.page.element? id = none) :
    (w.attachById id).1.host = w.host ∧ (w.attachById id).1.page.live = w.page.live := by
  unfold attachById
  cases present : w.host with
  | none => exact ⟨present, rfl⟩
  | some host =>
    rw [missing]
    cases w.busy with
    | true => exact ⟨present, rfl⟩
    | false => exact ⟨present, rfl⟩

/-- An event on an element other than the attached one changes nothing at all. -/
theorem fire_of_unattached (orderly : w.Orderly) (id : String) (kind : EventKind)
    (event : PageEvent) (other : w.host.bind (·.attached) ≠ some id) :
    w.fire (.element id) kind event = w := by
  rw [fire_of_orderly orderly, if_neg]
  intro listens
  unfold listening at listens
  cases present : w.host with
  | none => simp [present] at listens
  | some host =>
    cases attached : host.attached with
    | none => simp [present, attached] at listens
    | some held =>
      have same : id = held := by
        simp only [present, attached, Option.map_some, List.mem_append, List.mem_map] at listens
        rcases listens with page | ⟨_, -, element⟩
        · simp at page
        · exact (Target.element.inj (Prod.mk.inj element).1).symm
      exact other (by rw [present, same]; exact attached)

/-- A host on a page on which nothing listened before. Whatever steps are taken, whatever throws in
between and however deep scripts nest, the live listeners are exactly those that the host ought to
have. Attaching that fails at any of its additions leaves no attachment and no live listener on any
element; an element that is not found changes neither; a failed mount, and giving up the host, leave
no live listener; and an event on an element that is not attached changes nothing. -/
theorem live_listeners_exact (page : Page) (unheard : page.live = []) (text : String) (depth : Nat)
    (turns : List Turn) :
    let mounted := page.mount text
    let w := turns.foldl (turn depth) mounted.1
    (mounted.2.isSome → mounted.1.host = none ∧ mounted.1.page.live = []) ∧
    w.page.live = w.listening ∧
    (∀ host id earlier kind later value, w.host = some host →
      [.loadStart, .progress, .load, .error, .crash, .message] = earlier ++ kind :: later →
      (∀ k ∈ earlier, w.page.thrown? (.element id) (.add k) = none) →
      w.page.thrown? (.element id) (.add kind) = some value →
      (w.attach id).2 = .raised value ∧
        (w.attach id).1.host = some { host with attached := none } ∧
        (w.attach id).1.page.live = [(.document, .fullscreenChange), (.window, .resize)]) ∧
    (∀ id, w.page.element? id = none →
      (w.attachById id).1.host = w.host ∧ (w.attachById id).1.page.live = w.page.live) ∧
    (w.drop.page.live = [] ∧ w.drop.host = none) ∧
    (∀ id kind event, w.host.bind (·.attached) ≠ some id → w.fire (.element id) kind event = w) := by
  intro mounted w
  have orderly : w.Orderly := orderly_turns depth (orderly_mount unheard text) turns
  refine ⟨Page.mount_failed unheard, orderly, ?_, w.attachById_of_missing, live_drop orderly,
    fire_of_unattached orderly⟩
  intro host id earlier kind later value present kinds quiet throws
  have raised := attach_of_thrown orderly present id earlier later kind value kinds quiet throws
  rcases attach_cases orderly present id with ⟨done, -⟩ | ⟨_, -, kept, live⟩
  · rw [raised] at done
    contradiction
  · exact ⟨raised, kept, live⟩

/-- The module is attached, then attached again while the addition for errors throws: of the six
listeners on it none is left, and those on document and window are. -/
theorem live_listeners_exact_attach_fails :
    let page : Page :=
      { elements := [{ id := "canvas", tag := .canvas }, { id := "module", tag := .plain }]
        innerWidth := .undefined
        innerHeight := .undefined }
    let attach : Step := .call (.attach "module")
    let turns : List Turn := [⟨[], attach⟩, ⟨[((.element "module", .add .error), .null)], attach⟩]
    let w := turns.foldl (turn 0) (page.mount "").1
    page.live = [] ∧ w.page.live = w.listening ∧
      w.listening = [(.document, .fullscreenChange), (.window, .resize)] :=
  ⟨rfl, (live_listeners_exact _ rfl "" 0 _).2.1, by decide⟩

end Embed.World
