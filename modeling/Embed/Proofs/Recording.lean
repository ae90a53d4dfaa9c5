import Embed.Recording
/-!
# What one operation does to a recording

A run is a fold of steps, so what holds along every run comes down to what one operation does. The
laws here say that part by part: an operation leaves the configuration alone, it changes the
viewport only where it is about the viewport, and it sizes the canvas only through the viewport or
through a message that carries a size. `Since` speaks of the past of a run: something happened, and
nothing of another kind has happened after it.
-/

namespace Embed

namespace Display

/-- The first effect is recorded first. -/
@[simp]
theorem applyAll_cons (display : Display) (effect : Effect) (effects : List Effect) :
    display.applyAll (effect :: effects) = (display.apply effect).applyAll effects := rfl

end Display

/-- The size that an effect gives the canvas. -/
def Effect.canvas? : Effect → Option Size
  | .canvas size => some size
  | _ => none

/-- The size that the canvas has after effects, the last one that gives it a size deciding. -/
def Effect.canvasAfter (effects : List Effect) (before : Size) : Size :=
  effects.foldl (fun size effect => effect.canvas?.getD size) before

/-- A recorded page gives the canvas the size that the effects say. -/
theorem Display.applyAll_canvas (display : Display) (effects : List Effect) :
    (display.applyAll effects).canvas = Effect.canvasAfter effects display.canvas := by
  induction effects generalizing display with
  | nil => rfl
  | cons effect effects ih =>
    rw [applyAll_cons, ih]
    cases effect <;> rfl

namespace Effect

/-- One size, if there is one, becomes the size of the canvas. -/
@[simp]
theorem canvasAfter_map (size : Option Size) (before : Size) :
    canvasAfter (size.map Effect.canvas).toList before = size.getD before := by
  cases size <;> rfl

/-- Effects that give the canvas no size leave it alone. -/
theorem canvasAfter_of_unsized {effects : List Effect}
    (unsized : ∀ effect ∈ effects, effect.canvas? = none) (before : Size) :
    canvasAfter effects before = before := by
  induction effects generalizing before with
  | nil => rfl
  | cons effect effects ih =>
    have first : effect.canvas? = none := unsized effect List.mem_cons_self
    change canvasAfter effects (effect.canvas?.getD before) = before
    rw [first]
    exact ih (fun later member => unsized later (List.mem_cons_of_mem effect member)) before

end Effect

/-- What the page shows of a transition gives the canvas no size. -/
theorem Lifecycle.Transition.effects_unsized (t : Lifecycle.Transition) :
    ∀ effect ∈ t.effects, effect.canvas? = none := by
  obtain ⟨changed, status, progress, reveal, hideSpinner⟩ := t
  cases status <;> cases progress <;> cases reveal <;> cases hideSpinner <;>
    simp [Lifecycle.Transition.effects, Effect.canvas?]

/-- The size that a signal's message carries, a payload's once it is decoded. -/
def Signal.messageSize? (transport : Transport) : Signal → Option Size
  | .dispatch message => message.canvasSize
  | .payload text =>
    match decode transport text with
    | .ok message => message.canvasSize
    | .error _ => none
  | _ => none

namespace Session

/-- What a signal makes of the viewport, and the size that it gives the canvas. -/
def presentation (s : Session) (geometry : Geometry) : Signal → Viewport × Option Size
  | .fullscreenChange fullscreen => s.viewport.change fullscreen geometry.canvas geometry.window
  | .enterSoft => s.viewport.enterSoft geometry.canvas geometry.window
  | .leaveSoft => s.viewport.leaveSoft
  | .windowResize =>
    (s.viewport, if s.config.trackWindowSize then s.viewport.windowResized geometry.window else none)
  | signal => (s.viewport, signal.messageSize? s.config.transport)

/-- Carrying out a message leaves the viewport and the configuration alone. -/
theorem dispatch_kept (s : Session) (message : Message) :
    (s.dispatch message).session.viewport = s.viewport ∧
      (s.dispatch message).session.config = s.config := by
  cases message <;> exact ⟨rfl, rfl⟩

/-- A payload leaves the viewport and the configuration alone. -/
theorem receive_kept (s : Session) (payload : String) :
    (s.receive payload).session.viewport = s.viewport ∧
      (s.receive payload).session.config = s.config := by
  unfold receive
  split
  · exact dispatch_kept s _
  · exact ⟨rfl, rfl⟩

/-- A runtime's status line leaves the viewport and the configuration alone. -/
theorem runtimeStatus_kept (s : Session) (text : String) :
    (s.runtimeStatus text).session.viewport = s.viewport ∧
      (s.runtimeStatus text).session.config = s.config := by
  unfold runtimeStatus
  split
  · exact ⟨rfl, rfl⟩
  · cases statusSample? text <;> exact ⟨rfl, rfl⟩

/-- A changed window leaves the session alone. -/
@[simp]
theorem windowResized_session (s : Session) (geometry : Geometry) :
    (s.windowResized geometry).session = s := by
  unfold windowResized
  split
  · split <;> rfl
  · rfl

/-- No signal changes the configuration. -/
@[simp]
theorem receiveSignal_config (s : Session) (geometry : Geometry) (signal : Signal) :
    (s.receiveSignal geometry signal).session.config = s.config := by
  cases signal with
  | status text => exact (runtimeStatus_kept s text).2
  | payload text => exact (receive_kept s text).2
  | dispatch message => exact (dispatch_kept s message).2
  | windowResize => exact congrArg Session.config (windowResized_session s geometry)
  | life | print | fullscreenChange | enterSoft | leaveSoft => rfl

/-- A signal changes the viewport as its presentation says. -/
theorem receiveSignal_viewport (s : Session) (geometry : Geometry) (signal : Signal) :
    (s.receiveSignal geometry signal).session.viewport = (s.presentation geometry signal).1 := by
  cases signal with
  | status text => exact (runtimeStatus_kept s text).1
  | payload text => exact (receive_kept s text).1
  | dispatch message => exact (dispatch_kept s message).1
  | windowResize => exact congrArg Session.viewport (windowResized_session s geometry)
  | life | print | fullscreenChange | enterSoft | leaveSoft => rfl

/-- Carrying out a message gives the canvas the size that the message carries. -/
theorem dispatch_canvas (s : Session) (message : Message) (before : Size) :
    Effect.canvasAfter (s.dispatch message).effects before = message.canvasSize.getD before := by
  cases message <;> rfl

/-- A signal gives the canvas the size that its presentation says. -/
theorem receiveSignal_canvas (s : Session) (geometry : Geometry) (signal : Signal) :
    Effect.canvasAfter (s.receiveSignal geometry signal).effects geometry.canvas =
      (s.presentation geometry signal).2.getD geometry.canvas := by
  cases signal with
  | life event => exact Effect.canvasAfter_of_unsized (Lifecycle.Transition.effects_unsized _) _
  | status text =>
    apply Effect.canvasAfter_of_unsized
    simp only [receiveSignal, runtimeStatus]
    split
    · simp
    · split
      · split <;> simp [Effect.canvas?]
      · cases (s.lifecycle.progress _).2.progress <;> split <;> simp [Effect.canvas?]
  | payload text =>
    simp only [receiveSignal, receive, presentation, Signal.messageSize?]
    cases decode s.config.transport text with
    | ok message => exact dispatch_canvas s message _
    | error error => rfl
  | dispatch message => exact dispatch_canvas s message _
  | print line => rfl
  | fullscreenChange fullscreen => exact Effect.canvasAfter_map _ _
  | enterSoft => exact Effect.canvasAfter_map _ _
  | leaveSoft => exact Effect.canvasAfter_map _ _
  | windowResize =>
    simp only [receiveSignal, windowResized, presentation]
    by_cases tracked : s.config.trackWindowSize = true
    · rw [if_pos tracked, if_pos tracked]
      cases s.viewport.windowResized geometry.window with
      | none => rfl
      | some size =>
        by_cases same : size = geometry.canvas
        · simp [same, Effect.canvasAfter]
        · simp [same, Effect.canvasAfter, Effect.canvas?]
    · rw [if_neg tracked, if_neg tracked]
      rfl

end Session

namespace Recording

/-- A run of no operations does nothing. -/
@[simp]
theorem run_nil (r : Recording) : r.run [] = r := rfl

/-- A run takes its first operation first. -/
@[simp]
theorem run_cons (r : Recording) (operation : Operation) (operations : List Operation) :
    r.run (operation :: operations) = (r.step operation).1.run operations := rfl

/-- Runs one after the other are one run. -/
theorem run_append (r : Recording) (first second : List Operation) :
    r.run (first ++ second) = (r.run first).run second :=
  List.foldl_append

/-- A run takes its last operation last. -/
theorem run_concat (r : Recording) (operations : List Operation) (last : Operation) :
    r.run (operations ++ [last]) = ((r.run operations).step last).1 := by
  rw [run_append]
  rfl

/-- The viewport after an operation. -/
def viewportAfter (r : Recording) : Operation → Viewport
  | .signal signal => (r.session.presentation r.display.geometry signal).1
  | .requestFullscreen =>
    let asked := r.session.viewport.request r.display.canvas
    if r.display.refusal.isSome then asked.cancel else asked
  | .setWindow _ | .setRefusal _ => r.session.viewport

/-- The size of the canvas after an operation. -/
def canvasAfter (r : Recording) : Operation → Size
  | .signal signal => (r.session.presentation r.display.geometry signal).2.getD r.display.canvas
  | _ => r.display.canvas

/-- An operation changes the viewport as said. -/
theorem step_viewport (r : Recording) (operation : Operation) :
    (r.step operation).1.session.viewport = r.viewportAfter operation := by
  cases operation with
  | signal signal => exact Session.receiveSignal_viewport r.session r.display.geometry signal
  | requestFullscreen =>
    simp only [step, requestFullscreen, viewportAfter]
    cases r.display.refusal <;> rfl
  | setWindow | setRefusal => rfl

/-- An operation changes the size of the canvas as said. -/
theorem step_canvas (r : Recording) (operation : Operation) :
    (r.step operation).1.display.canvas = r.canvasAfter operation := by
  cases operation with
  | signal signal =>
    simp only [step, tell, Display.applyAll_canvas]
    exact Session.receiveSignal_canvas r.session r.display.geometry signal
  | requestFullscreen =>
    simp only [step, requestFullscreen, canvasAfter]
    cases r.display.refusal <;> rfl
  | setWindow | setRefusal => rfl

/-- No operation changes the configuration. -/
theorem step_config (r : Recording) (operation : Operation) :
    (r.step operation).1.session.config = r.session.config := by
  cases operation with
  | signal signal => exact Session.receiveSignal_config r.session r.display.geometry signal
  | requestFullscreen =>
    simp only [step, requestFullscreen]
    cases r.display.refusal <;> rfl
  | setWindow | setRefusal => rfl

/-- No run changes the configuration. -/
theorem run_config (r : Recording) (operations : List Operation) :
    (r.run operations).session.config = r.session.config := by
  induction operations generalizing r with
  | nil => rfl
  | cons operation operations ih => rw [run_cons, ih, step_config]

/-- In the past of a run `began` held of some step, and `ended` of no step after it. Both are told
the operations before the step and the step itself. -/
def Since (began ended : List Operation → Operation → Prop) (operations : List Operation) : Prop :=
  ∃ earlier operation later, operations = earlier ++ operation :: later ∧ began earlier operation ∧
    ∀ between next rest, later = between ++ next :: rest →
      ¬ ended (earlier ++ operation :: between) next

/-- Nothing lies in the past of a run that has not begun. -/
theorem not_since_nil (began ended : List Operation → Operation → Prop) :
    ¬ Since began ended [] := by
  rintro ⟨earlier, operation, later, split, -⟩
  simp at split

/-- One more step begins what it begins, and keeps what it does not end. -/
theorem since_concat (began ended : List Operation → Operation → Prop)
    (operations : List Operation) (last : Operation) :
    Since began ended (operations ++ [last]) ↔
      began operations last ∨ Since began ended operations ∧ ¬ ended operations last := by
  constructor
  · rintro ⟨earlier, operation, later, split, start, quiet⟩
    rcases List.eq_nil_or_concat later with rfl | ⟨front, final, rfl⟩
    · obtain ⟨rfl, same⟩ := List.append_inj' split rfl
      obtain rfl := List.singleton_inj.mp same
      exact Or.inl start
    · rw [List.concat_eq_append] at split quiet
      rw [← List.cons_append, ← List.append_assoc] at split
      obtain ⟨rfl, same⟩ := List.append_inj' split rfl
      obtain rfl := List.singleton_inj.mp same
      refine Or.inr ⟨⟨earlier, operation, front, rfl, start, ?_⟩, quiet front last [] rfl⟩
      intro between next rest inside
      exact quiet between next (rest ++ [last]) (by simp [inside])
  · rintro (start | ⟨⟨earlier, operation, later, rfl, start, quiet⟩, lasting⟩)
    · refine ⟨operations, last, [], rfl, start, ?_⟩
      intro between next rest inside
      simp at inside
    · refine ⟨earlier, operation, later ++ [last], by simp, start, ?_⟩
      intro between next rest inside
      rcases List.eq_nil_or_concat rest with rfl | ⟨front, final, rfl⟩
      · obtain ⟨rfl, same⟩ := List.append_inj' inside rfl
        obtain rfl := List.singleton_inj.mp same
        exact lasting
      · rw [List.concat_eq_append, ← List.cons_append, ← List.append_assoc] at inside
        obtain ⟨rfl, -⟩ := List.append_inj' inside rfl
        exact quiet between next front rfl

end Recording

end Embed
