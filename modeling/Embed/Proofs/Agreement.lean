import Embed.Proofs.Attachment
import Embed.Proofs.Recording
/-!
# A host and a recording that agree

A host keeps its session, but the size of its canvas is kept by the page; a recording keeps both
itself. They agree when the sessions are equal and the canvas has one size in both. What is told to
both keeps them in agreement, provided that the recorded window is first given the size of the real
one, for the window is all that a session reads of a page besides the canvas. Everything that
happens on the page alone keeps them in agreement as well.
-/

namespace Embed

/-- A host on a page is in the state of a recording. -/
structure Host.Shows (host : Host) (page : Page) (r : Recording) : Prop where
  /-- The canvas is on the page. -/
  present : (page.element? host.parts.canvas).isSome
  /-- The sessions are equal. -/
  session : host.session = r.session
  /-- The canvas has one size. -/
  canvas : page.canvasSize host.parts.canvas = r.display.canvas

/-- A recording whose session is about to request fullscreen. -/
def Recording.beginRequest (r : Recording) : Recording :=
  ⟨r.session.beginRequest r.display.canvas, r.display⟩

namespace World

/-- The host of a world, while there is one, is in the state of a recording. -/
def Agrees (w : World) (r : Recording) : Prop :=
  ∀ host, w.host = some host → host.Shows w.page r

variable {w w' : World} {r : Recording}

/-- What only traces keeps agreement. -/
theorem agrees_of_untraced (same : w'.untraced = w.untraced) (agrees : w.Agrees r) :
    w'.Agrees r := by
  have pages := congrArg World.page same
  have hosts := congrArg World.host same
  change w'.page.untraced = w.page.untraced at pages
  change w'.host = w.host at hosts
  intro host found
  obtain ⟨present, session, canvas⟩ := agrees host (hosts ▸ found)
  have elements := congrArg (fun page => (page.element? host.parts.canvas).isSome) pages
  have sizes := congrArg (fun page => page.canvasSize host.parts.canvas) pages
  exact ⟨elements.trans present, session, sizes.trans canvas⟩

/-- A recording that is told the size of the window and the answer of the platform agrees as before.
-/
theorem agrees_prepared (agrees : w.Agrees r) (window : Size) (refusal : Option String) :
    w.Agrees (r.run [.setWindow window, .setRefusal refusal]) := by
  intro host found
  obtain ⟨present, session, canvas⟩ := agrees host found
  exact ⟨present, session, canvas⟩

/-- A session that is free takes a signal as a recording does whose window has the size of the
page's. -/
theorem agrees_inform (agrees : w.Agrees r) (free : w.busy = false) (signal : Signal)
    (window : r.display.window = w.page.windowSize) :
    (w.inform signal).Agrees (r.step (.signal signal)).1 := by
  intro host' found
  cases present : w.host with
  | none =>
    unfold inform tell at found
    rw [present] at found
    simp [present] at found
  | some host =>
    obtain ⟨shown, session, canvas⟩ := agrees host present
    have geometry : host.geometry w.page = r.display.geometry := by
      unfold Host.geometry Display.geometry
      rw [canvas, window]
    -- Canvas and window are all that a session reads of a page, so both sessions answer alike.
    unfold inform tell at found ⊢
    simp only [present, free, Bool.false_eq_true, ↓reduceIte, Option.some.injEq] at found ⊢
    subst found
    rw [geometry, session]
    refine ⟨?_, rfl, ?_⟩
    · rw [Page.isSome_element?_applyAll]
      exact shown
    · change (w.page.applyAll host.parts _ _).canvasSize host.parts.canvas =
        (r.display.applyAll (r.session.receiveSignal r.display.geometry signal).effects).canvas
      rw [Page.canvasSize_applyAll _ _ _ _ shown, Display.applyAll_canvas, canvas]

/-- A session in use takes no signal. -/
theorem untraced_inform_of_busy (w : World) (signal : Signal) (busy : w.busy = true) :
    (w.inform signal).untraced = w.untraced := by
  unfold inform tell
  rw [busy]
  cases present : w.host with
  | none => rfl
  | some host => rfl

/-- What changes neither the elements nor the parts and the session of the host keeps agreement. -/
theorem agrees_of_elements (elements : w'.page.elements = w.page.elements)
    (hosts : ∀ host', w'.host = some host' →
      ∃ host, w.host = some host ∧ host'.parts = host.parts ∧ host'.session = host.session)
    (agrees : w.Agrees r) : w'.Agrees r := by
  intro host' found
  obtain ⟨host, before, parts, session⟩ := hosts host' found
  obtain ⟨present, same, canvas⟩ := agrees host before
  have looked : ∀ id, w'.page.element? id = w.page.element? id := by
    intro id
    unfold Page.element?
    rw [elements]
  refine ⟨?_, session.trans same, ?_⟩
  · rw [parts, looked]
    exact present
  · rw [← canvas, parts]
    unfold Page.canvasSize
    rw [looked]

/-- A change of elements that keeps ids and sizes keeps agreement. -/
theorem agrees_modify (agrees : w.Agrees r) (id : String) (f : Element → Element)
    (stable : ∀ e, (f e).id = e.id) (size : ∀ e, (f e).size = e.size) :
    (w.mapPage (·.modify id f)).Agrees r := by
  intro host found
  obtain ⟨present, session, canvas⟩ := agrees host found
  refine ⟨?_, session, ?_⟩
  · change ((w.page.modify id f).element? host.parts.canvas).isSome
    rw [Page.isSome_element?_modify _ _ _ _ stable]
    exact present
  · change (w.page.modify id f).canvasSize host.parts.canvas = r.display.canvas
    rw [Page.canvasSize_modify _ _ _ _ stable size]
    exact canvas

/-- Detaching changes neither the elements nor the parts and the session of the host. -/
theorem detach_kept (w : World) :
    w.detach.busy = w.busy ∧ w.detach.page.elements = w.page.elements ∧
      ∀ host', w.detach.host = some host' →
        ∃ host, w.host = some host ∧ host'.parts = host.parts ∧ host'.session = host.session := by
  unfold detach
  cases present : w.host with
  | none => exact ⟨rfl, rfl, fun host' found => absurd (present.symm.trans found) (by simp)⟩
  | some host =>
    cases attached : host.attached with
    | none =>
      simp only [attached]
      exact ⟨trivial, trivial, fun host' found => ⟨host', present.symm.trans found, rfl, rfl⟩⟩
    | some id =>
      simp only [attached, Page.elements_dropListeners]
      refine ⟨trivial, rfl, fun host' found => ⟨host, rfl, ?_⟩⟩
      obtain rfl := Option.some.inj found
      exact ⟨rfl, rfl⟩

/-- Attaching changes neither the elements nor the parts and the session of the host. -/
theorem attach_kept (w : World) (id : String) :
    (w.attach id).1.busy = w.busy ∧ (w.attach id).1.page.elements = w.page.elements ∧
      ∀ host', (w.attach id).1.host = some host' →
        ∃ host, w.host = some host ∧ host'.parts = host.parts ∧ host'.session = host.session := by
  obtain ⟨busy, elements, hosts⟩ := detach_kept w
  unfold attach
  cases present : w.detach.host with
  | none =>
    simp only [present]
    exact ⟨busy, elements, fun host' found => absurd found (by simp)⟩
  | some host =>
    have added := Page.elements_addListeners w.detach.page [] (Host.moduleListeners id)
    obtain ⟨before, found, parts, session⟩ := hosts host present
    simp only [present]
    cases outcome : w.detach.page.addListeners [] (Host.moduleListeners id) with
    | mk page raised =>
      rw [outcome] at added
      cases raised with
      | none =>
        refine ⟨busy, added.trans elements, fun host' same => ⟨before, found, ?_⟩⟩
        obtain rfl := Option.some.inj same
        exact ⟨parts, session⟩
      | some value =>
        refine ⟨busy, added.trans elements, fun host' same => ⟨before, found, ?_⟩⟩
        obtain rfl := Option.some.inj same
        exact ⟨parts, session⟩

/-- The begin of a request keeps agreement, the recording having kept the same size. -/
theorem agrees_beginRequest {host : Host} (agrees : w.Agrees r) (found : w.host = some host) :
    (w.beginRequest host.parts.canvas).Agrees r.beginRequest := by
  intro host' same
  obtain ⟨present, session, canvas⟩ := agrees host found
  simp only [beginRequest, mapSession, found, Option.map_some, Option.some.injEq] at same
  subst same
  refine ⟨present, ?_, canvas⟩
  change host.session.beginRequest (w.page.canvasSize host.parts.canvas) =
    r.session.beginRequest r.display.canvas
  rw [session, canvas]

/-- The end of a request keeps agreement, the recording having got the same answer. -/
theorem agrees_endRequest (agrees : w.Agrees r.beginRequest) (window : Size) (refusal : Option String) :
    (w.endRequest refusal.isSome).Agrees
      (r.run [.setWindow window, .setRefusal refusal, .requestFullscreen]) := by
  intro host' same
  cases refusal with
  | none =>
    obtain ⟨present, session, canvas⟩ := agrees host' same
    exact ⟨present, session, canvas⟩
  | some reason =>
    change (w.host.map fun host => { host with session := host.session.cancelRequest }) =
      some host' at same
    obtain ⟨host, found, rfl⟩ := Option.map_eq_some_iff.mp same
    obtain ⟨present, session, canvas⟩ := agrees host found
    refine ⟨present, ?_, canvas⟩
    exact congrArg Session.cancelRequest session

/-- A host that was put on a page agrees with a recording of its configuration whose canvas has the
size of the page's. -/
theorem agrees_mount {page : Page} {text : String} {config : Config} (unheard : page.live = [])
    (mounted : (page.mount text).2 = none) (parsed : Config.parse text = .ok config)
    (display : Display) :
    (page.mount text).1.Agrees
      (.new config { display with canvas := page.canvasSize config.elements.canvas }) := by
  obtain ⟨read, parts, same, canvas, present, hosted, -, elements, -⟩ :=
    Page.mount_succeeded unheard mounted
  obtain rfl : config = read := Except.ok.inj (parsed.symm.trans same)
  have looked : ∀ id, (page.mount text).1.page.element? id = page.element? id := by
    intro id
    unfold Page.element?
    rw [elements]
  intro host found
  obtain rfl := Option.some.inj (hosted.symm.trans found)
  refine ⟨?_, rfl, ?_⟩
  · rw [canvas, looked]
    exact present
  · change (page.mount text).1.page.canvasSize parts.canvas = _
    unfold Page.canvasSize
    rw [canvas, looked]
    rfl

end World

end Embed
