import Embed.Proofs.Independence
import Embed.Proofs.Viewport
/-!
# A refused request leaves no trace

A request keeps the size of the canvas before the platform answers, and a refusal does not put the
earlier size back. Nobody can tell: while the canvas has its own size and no notification is
awaited, the kept size is never read before it is written again. Two viewports that differ in such a
size alone are `Alike`; every change leaves them alike and gives the canvas the same size, so the
runs from them show the same.
-/

namespace Embed

namespace Viewport

/-- Two viewports differ at most in a kept size that nothing reads: the canvas has its own size, and
no notification is awaited. -/
structure Alike (v v' : Viewport) : Prop where
  /-- The canvas is presented in the same way. -/
  mode : v.mode = v'.mode
  /-- A notification is awaited by both or by none. -/
  pending : v.pending = v'.pending
  /-- The kept size is the same, or is not read. -/
  saved : v.saved = v'.saved ∨ v'.mode = .windowed ∧ v'.pending = false

variable {v v' : Viewport}

/-- A viewport is like itself. -/
theorem Alike.refl (v : Viewport) : v.Alike v :=
  ⟨rfl, rfl, Or.inl rfl⟩

/-- Viewports that are alike differ in the kept size alone. -/
theorem Alike.eq (alike : v.Alike v') : v = { v' with saved := v.saved } := by
  rw [← alike.mode, ← alike.pending]

/-- The kept size is the same wherever the canvas fills the window. -/
theorem Alike.saved_of_filled (alike : v.Alike v') (filled : v'.mode ≠ .windowed) :
    v.saved = v'.saved :=
  alike.saved.resolve_right fun unread => filled unread.1

/-- The kept size is the same while a notification is awaited. -/
theorem Alike.saved_of_pending (alike : v.Alike v') (awaited : v'.pending = true) :
    v.saved = v'.saved := by
  refine alike.saved.resolve_right fun unread => ?_
  rw [unread.2] at awaited
  contradiction

/-- Where the canvas fills the window both viewports are the same. -/
theorem Alike.eq_of_filled (alike : v.Alike v') (filled : v'.mode ≠ .windowed) : v = v' := by
  rw [alike.eq, alike.saved_of_filled filled]

/-- Capturing the canvas makes up for a kept size that differs. -/
theorem Alike.capture (alike : v.Alike v') (current : Size) :
    v.capture current = v'.capture current := by
  by_cases windowed : v'.mode = .windowed
  · have windowed' : v.mode = .windowed := alike.mode.trans windowed
    rw [Viewport.capture, Viewport.capture, if_pos windowed, if_pos windowed', alike.eq]
  · rw [alike.eq_of_filled windowed]

/-- A request makes up for a kept size that differs. -/
theorem Alike.request (alike : v.Alike v') (current : Size) :
    v.request current = v'.request current := by
  by_cases windowed : v'.mode = .windowed
  · have windowed' : v.mode = .windowed := alike.mode.trans windowed
    rw [Viewport.request, Viewport.request, if_pos windowed, if_pos windowed',
      alike.capture current]
  · rw [alike.eq_of_filled windowed]

/-- A notification of fullscreen captures the canvas unless it is awaited, and then the kept size is
the same already. -/
theorem Alike.entered (alike : v.Alike v') (current window : Size) :
    v.entered current window = v'.entered current window := by
  cases awaited : v'.pending with
  | true => rw [alike.eq, alike.saved_of_pending awaited]
  | false =>
    have unawaited : v.pending = false := alike.pending.trans awaited
    have captured : v.capture current = v'.capture current := alike.capture current
    simp [Viewport.entered, awaited, unawaited, captured]

/-- Soft fullscreen makes up for a kept size that differs. -/
theorem Alike.enterSoft (alike : v.Alike v') (current window : Size) :
    v.enterSoft current window = v'.enterSoft current window := by
  by_cases full : v'.mode = .fullscreen
  · have filled : v'.mode ≠ .windowed := by simp [full]
    rw [alike.eq_of_filled filled]
  · have full' : ¬ v.mode = .fullscreen := fun same => full (alike.mode.symm.trans same)
    rw [Viewport.enterSoft, Viewport.enterSoft, if_neg full, if_neg full', alike.capture current]

/-- Two changes of viewports leave them alike and give the canvas the same size. -/
structure SameChange (change change' : Viewport × Option Size) : Prop where
  /-- The viewports are alike. -/
  alike : change.1.Alike change'.1
  /-- The size is the same. -/
  sized : change.2 = change'.2

/-- A change is the same as itself. -/
theorem SameChange.refl (change : Viewport × Option Size) : SameChange change change :=
  ⟨.refl change.1, rfl⟩

/-- The end of fullscreen leaves a canvas at its own size alone, and otherwise the kept size is the
same. -/
theorem Alike.exited (alike : v.Alike v') : SameChange v.exited v'.exited := by
  by_cases windowed : v'.mode = .windowed
  · have windowed' : v.mode = .windowed := alike.mode.trans windowed
    rw [Viewport.exited, Viewport.exited, if_pos windowed, if_pos windowed']
    exact ⟨alike, rfl⟩
  · rw [alike.eq_of_filled windowed]
    exact .refl _

/-- The platform's notifications change both in the same way. -/
theorem Alike.change (alike : v.Alike v') (fullscreen : Bool) (current window : Size) :
    SameChange (v.change fullscreen current window) (v'.change fullscreen current window) := by
  cases fullscreen with
  | true =>
    simp only [Viewport.change, if_true, alike.entered current window]
    exact .refl _
  | false => exact alike.exited

/-- Leaving soft fullscreen leaves a canvas at its own size alone, and otherwise the kept size is
the same. -/
theorem Alike.leaveSoft (alike : v.Alike v') : SameChange v.leaveSoft v'.leaveSoft := by
  by_cases windowed : v'.mode = .windowed
  · have hard : ¬ v'.mode = .softFullscreen := by simp [windowed]
    have hard' : ¬ v.mode = .softFullscreen := fun same => hard (alike.mode.symm.trans same)
    rw [Viewport.leaveSoft, Viewport.leaveSoft, if_neg hard, if_neg hard']
    exact ⟨alike, rfl⟩
  · rw [alike.eq_of_filled windowed]
    exact .refl _

/-- A canvas that follows the window does not go by the kept size. -/
theorem Alike.windowResized (alike : v.Alike v') (window : Size) :
    v.windowResized window = v'.windowResized window := by
  rw [Viewport.windowResized, Viewport.windowResized, alike.mode]

/-- A request that is refused leaves a viewport alike that awaited no notification. -/
theorem alike_refused (v : Viewport) (unasked : v.pending = false) (current : Size) :
    (v.request current).cancel.Alike v := by
  refine ⟨mode_request v current, unasked.symm, ?_⟩
  by_cases windowed : v.mode = .windowed
  · exact Or.inr ⟨windowed, unasked⟩
  · refine Or.inl ?_
    change (v.request current).saved = v.saved
    rw [saved_request, if_neg windowed]

end Viewport

namespace Session

/-- A session with another viewport. -/
def withViewport (s : Session) (v : Viewport) : Session :=
  { s with viewport := v }

/-- An answer is like another one: the viewport is like the one there, and nothing else differs. -/
structure Answer.Alike (answer answer' : Answer) : Prop where
  /-- The viewport is like the one there. -/
  viewport : answer.session.viewport.Alike answer'.session.viewport
  /-- Nothing else of the session differs. -/
  session : answer.session = answer'.session.withViewport answer.session.viewport
  /-- The page is to show the same. -/
  effects : answer.effects = answer'.effects
  /-- The sender learns the same. -/
  reply : answer.reply = answer'.reply

variable {v : Viewport} {s : Session}

/-- A message does not go by the viewport. -/
theorem dispatch_alike (alike : v.Alike s.viewport) (message : Message) :
    ((s.withViewport v).dispatch message).Alike (s.dispatch message) := by
  cases message <;> exact ⟨alike, rfl, rfl, rfl⟩

/-- A payload does not go by the viewport. -/
theorem receive_alike (alike : v.Alike s.viewport) (payload : String) :
    ((s.withViewport v).receive payload).Alike (s.receive payload) := by
  have transport : (s.withViewport v).config.transport = s.config.transport := rfl
  simp only [receive, transport]
  cases decode s.config.transport payload with
  | ok message =>
    have carried := dispatch_alike alike message
    exact ⟨carried.viewport, carried.session, carried.effects, rfl⟩
  | error error => exact ⟨alike, rfl, rfl, rfl⟩

/-- A runtime's status line does not go by the viewport. -/
theorem runtimeStatus_alike (alike : v.Alike s.viewport) (text : String) :
    ((s.withViewport v).runtimeStatus text).Alike (s.runtimeStatus text) := by
  have life : (s.withViewport v).lifecycle = s.lifecycle := rfl
  simp only [runtimeStatus, life]
  split
  · exact ⟨alike, rfl, rfl, rfl⟩
  · cases statusSample? text <;> exact ⟨alike, rfl, rfl, rfl⟩

/-- Changes of the viewport that are the same are answered alike. -/
theorem present_alike {change change' : Viewport × Option Size}
    (same : Viewport.SameChange change change') :
    ((s.withViewport v).present change).Alike (s.present change') := by
  refine ⟨same.alike, rfl, ?_, rfl⟩
  simp only [present, same.sized]

/-- A canvas that fills the window follows it in the same way. -/
theorem windowResized_alike (alike : v.Alike s.viewport) (geometry : Geometry) :
    ((s.withViewport v).windowResized geometry).Alike (s.windowResized geometry) := by
  have tracks : (s.withViewport v).config.trackWindowSize = s.config.trackWindowSize := rfl
  have follows : (s.withViewport v).viewport.windowResized geometry.window =
      s.viewport.windowResized geometry.window := alike.windowResized geometry.window
  simp only [windowResized, tracks, follows]
  split
  · cases s.viewport.windowResized geometry.window <;> exact ⟨alike, rfl, rfl, rfl⟩
  · exact ⟨alike, rfl, rfl, rfl⟩

/-- Every signal is answered alike where the viewports are alike. -/
theorem receiveSignal_alike (alike : v.Alike s.viewport) (geometry : Geometry) (signal : Signal) :
    ((s.withViewport v).receiveSignal geometry signal).Alike (s.receiveSignal geometry signal) := by
  cases signal with
  | life event => exact ⟨alike, rfl, rfl, rfl⟩
  | status text => exact runtimeStatus_alike alike text
  | payload text => exact receive_alike alike text
  | dispatch message => exact dispatch_alike alike message
  | print line => exact ⟨alike, rfl, rfl, rfl⟩
  | fullscreenChange fullscreen =>
    exact present_alike (alike.change fullscreen geometry.canvas geometry.window)
  | enterSoft =>
    simp only [receiveSignal]
    have entered := alike.enterSoft geometry.canvas geometry.window
    exact present_alike (entered ▸ .refl _)
  | leaveSoft => exact present_alike alike.leaveSoft
  | windowResize => exact windowResized_alike alike geometry

end Session

/-- A page on which one more request was made. -/
def Display.askedAgain (display : Display) : Display :=
  { display with requests := display.requests + 1 }

/-- Effects are recorded whatever the number of requests. -/
theorem Display.applyAll_askedAgain (display : Display) (effects : List Effect) :
    display.askedAgain.applyAll effects = (display.applyAll effects).askedAgain := by
  induction effects generalizing display with
  | nil => rfl
  | cons effect effects ih =>
    rw [applyAll_cons, applyAll_cons, ← ih]
    cases effect <;> rfl

namespace Recording

/-- A recording shadows another one: it shows the same, with one more request made. -/
structure Shadows (r r' : Recording) : Prop where
  /-- The viewports are alike. -/
  viewport : r.session.viewport.Alike r'.session.viewport
  /-- Nothing else of the session differs. -/
  session : r.session = r'.session.withViewport r.session.viewport
  /-- The page counts one more request, and nothing else of it differs. -/
  display : r.display = r'.display.askedAgain

variable {r r' : Recording}

/-- A signal is told to both with the same reply, and one still shadows the other. -/
theorem Shadows.tell (shadows : r.Shadows r') (signal : Signal) :
    (r.tell signal).1.Shadows (r'.tell signal).1 ∧ (r.tell signal).2 = (r'.tell signal).2 := by
  have geometry : r.display.geometry = r'.display.geometry := by
    rw [shadows.display]
    rfl
  have answers := Session.receiveSignal_alike shadows.viewport r'.display.geometry signal
  rw [← shadows.session] at answers
  simp only [Recording.tell, geometry]
  refine ⟨⟨answers.viewport, answers.session, ?_⟩, answers.reply⟩
  change r.display.applyAll _ = (r'.display.applyAll _).askedAgain
  rw [answers.effects, shadows.display, Display.applyAll_askedAgain]

/-- What a request does, and what its sender learns. -/
theorem requestFullscreen_eq (r : Recording) :
    r.requestFullscreen =
      (⟨if r.display.refusal.isSome then (r.session.beginRequest r.display.canvas).cancelRequest
          else r.session.beginRequest r.display.canvas, r.display.askedAgain⟩,
        r.display.refusal.elim .done fun reason => .failed (.platform reason)) := by
  obtain ⟨session, canvas, window, status, progress, output, visible, toggles, assignments,
    requests, refusal⟩ := r
  cases refusal <;> rfl

/-- A request is made in both with the same reply, and one still shadows the other. -/
theorem Shadows.requestFullscreen (shadows : r.Shadows r') :
    r.requestFullscreen.1.Shadows r'.requestFullscreen.1 ∧
      r.requestFullscreen.2 = r'.requestFullscreen.2 := by
  have asked : r.session.beginRequest r.display.canvas =
      r'.session.beginRequest r'.display.canvas := by
    have kept := shadows.viewport.request r'.display.canvas
    rw [shadows.session, shadows.display]
    exact congrArg r'.session.withViewport kept
  have refusal : r.display.refusal = r'.display.refusal := by
    rw [shadows.display]
    rfl
  have counted := congrArg Display.askedAgain shadows.display
  rw [requestFullscreen_eq, requestFullscreen_eq, asked, refusal]
  exact ⟨⟨.refl _, rfl, counted⟩, rfl⟩

/-- An operation has the same reply in both, and one still shadows the other. -/
theorem Shadows.step (shadows : r.Shadows r') (operation : Operation) :
    (r.step operation).1.Shadows (r'.step operation).1 ∧
      (r.step operation).2 = (r'.step operation).2 := by
  cases operation with
  | signal signal => exact shadows.tell signal
  | requestFullscreen => exact shadows.requestFullscreen
  | setWindow size =>
    have shown :=
      congrArg (fun display : Display => { display with window := size }) shadows.display
    exact ⟨⟨shadows.viewport, shadows.session, shown⟩, rfl⟩
  | setRefusal reason =>
    have shown :=
      congrArg (fun display : Display => { display with refusal := reason }) shadows.display
    exact ⟨⟨shadows.viewport, shadows.session, shown⟩, rfl⟩

/-- Both have the same life. -/
theorem Shadows.lifecycle (shadows : r.Shadows r') :
    r.session.lifecycle = r'.session.lifecycle := by
  rw [shadows.session]
  rfl

/-- A run from one shadows the run from the other, and what is learned on the way is the same. -/
theorem Shadows.run (shadows : r.Shadows r') (operations : List Operation) :
    (r.run operations).Shadows (r'.run operations) ∧
      r.outcomes operations = r'.outcomes operations := by
  induction operations generalizing r r' with
  | nil => exact ⟨shadows, rfl⟩
  | cons operation later ih =>
    obtain ⟨next, reply⟩ := shadows.step operation
    obtain ⟨final, learned⟩ := ih next
    refine ⟨final, ?_⟩
    rw [outcomes, outcomes, outcome, outcome, reply, next.lifecycle, learned]

/-- A request that the platform refuses now, whatever it does to others. -/
def refusedOnce (r : Recording) (reason : String) : List Operation :=
  [.setRefusal (some reason), .requestFullscreen, .setRefusal r.display.refusal]

/-- A refused request shadows what was there, if no notification was awaited. -/
theorem shadows_refusedOnce (r : Recording) (unasked : r.session.viewport.pending = false)
    (reason : String) : (r.run (r.refusedOnce reason)).Shadows r :=
  ⟨Viewport.alike_refused r.session.viewport unasked r.display.canvas, rfl, rfl⟩

/-- Where no notification is awaited, a request that the platform refuses is reported as failed and
leaves no other trace. Whatever is done afterwards shows what it would have shown without the
request, and is answered as it would have been. The page has counted one more request, and the kept
size may differ, but only while the canvas has its own size. -/
theorem refused_request_unobservable (r : Recording)
    (unasked : r.session.viewport.pending = false) (reason : String)
    (operations : List Operation) :
    let asked := r.run (r.refusedOnce reason)
    let now := asked.run operations
    let quiet := r.run operations
    ((r.run [.setRefusal (some reason)]).step .requestFullscreen).2 = .failed (.platform reason) ∧
    asked.outcomes operations = r.outcomes operations ∧
    now.display = { quiet.display with requests := quiet.display.requests + 1 } ∧
    now.session = { quiet.session with
      viewport := { quiet.session.viewport with saved := now.session.viewport.saved } } ∧
    (quiet.session.viewport.mode ≠ .windowed →
      now.session.viewport.saved = quiet.session.viewport.saved) := by
  intro asked now quiet
  obtain ⟨shadows, learned⟩ := (shadows_refusedOnce r unasked reason).run operations
  refine ⟨rfl, learned, shadows.display, ?_, shadows.viewport.saved_of_filled⟩
  rw [← shadows.viewport.eq]
  exact shadows.session

/-- A message sizes the canvas, and a request is refused: the kept size differs from then on, until
soft fullscreen is entered, and it is the size of the message that comes back either way. -/
theorem refused_request_unobservable_resized :
    let resize : Operation := .signal (.dispatch (.resize ⟨1024, 768⟩))
    let r := (Recording.new {} .standard).run [.signal .enterSoft, .signal .leaveSoft, resize]
    let asked := r.run (r.refusedOnce "not allowed")
    let soft : List Operation := [.signal .enterSoft]
    r.session.viewport.pending = false ∧
      asked.session.viewport.saved ≠ r.session.viewport.saved ∧
      (asked.run soft).session.viewport.saved = (r.run soft).session.viewport.saved := by
  intro resize r asked soft
  have unasked : r.session.viewport.pending = false := rfl
  obtain ⟨-, -, -, -, saved⟩ := refused_request_unobservable r unasked "not allowed" soft
  exact ⟨unasked, by decide, saved (by decide)⟩

end Recording

end Embed
