import Embed.Proofs.Recording
import Embed.Proofs.Viewport
import Mathlib.Data.List.Induction
/-!
# The canvas gets its own size back

When a canvas no longer fills the window it takes the size that was kept for it. Which size that is
can be read off the past of a run alone: it is the size just before the last step that captures one.
A viewport keeps no past, only a size and whether a request awaits its notification, so the proof is
that these two always stand for the past: the mark for the granted request that nothing has settled
since, the size for the last capture.
-/

namespace Embed.Recording

/-- The platform grants a request made while the canvas has its own size. -/
def Grants (r : Recording) (operation : Operation) : Prop :=
  operation = .requestFullscreen ∧ r.session.viewport.mode = .windowed ∧ r.display.refusal = none

/-- The platform notifies of fullscreen, or refuses a request. -/
def Settles (r : Recording) (operation : Operation) : Prop :=
  operation = .signal (.fullscreenChange true) ∨
    operation = .requestFullscreen ∧ r.display.refusal ≠ none

/-- After a run a request is outstanding: it was granted, and nothing has settled it since. -/
def Outstanding (start : Recording) : List Operation → Prop :=
  Since (fun past => (start.run past).Grants) (fun past => (start.run past).Settles)

/-- A step captures the size of the canvas: it finds it at its own size, and requests fullscreen,
enters soft fullscreen, or is a notification of fullscreen that no request is outstanding for. -/
def Captures (start : Recording) (past : List Operation) (operation : Operation) : Prop :=
  (start.run past).session.viewport.mode = .windowed ∧
    (operation = .requestFullscreen ∨ operation = .signal .enterSoft ∨
      operation = .signal (.fullscreenChange true) ∧ ¬ Outstanding start past)

/-- The canvas had this size just before the last step of a run that captures it. -/
def LastCaptured (start : Recording) (size : Size) : List Operation → Prop :=
  Since (fun past operation =>
    Captures start past operation ∧ (start.run past).display.canvas = size) (Captures start)

/-- An operation gives the canvas back to the window: before it the canvas filled the window, and
after it no longer. -/
def Returns (r : Recording) (operation : Operation) : Prop :=
  r.session.viewport.mode ≠ .windowed ∧
    (r.step operation).1.session.viewport.mode = .windowed

/-- The mark for an awaited notification is set by a grant and taken away by what settles it. -/
theorem pending_viewportAfter (r : Recording) (operation : Operation) :
    (r.viewportAfter operation).pending = true ↔
      r.Grants operation ∨ r.session.viewport.pending = true ∧ ¬ r.Settles operation := by
  cases operation with
  | signal signal =>
    cases signal with
    | fullscreenChange fullscreen =>
      cases fullscreen with
      | true => simp [viewportAfter, Session.presentation, Viewport.change, Viewport.entered, Grants,
          Settles]
      | false => simp [viewportAfter, Session.presentation, Viewport.change, Grants, Settles]
    | enterSoft | leaveSoft => simp [viewportAfter, Session.presentation, Grants, Settles]
    | life | status | payload | dispatch | print | windowResize =>
      simp [viewportAfter, Session.presentation, Grants, Settles]
  | requestFullscreen =>
    by_cases windowed : r.session.viewport.mode = .windowed
    · cases refusal : r.display.refusal <;>
        simp [viewportAfter, Viewport.cancel, Grants, Settles, windowed, refusal]
    · cases refusal : r.display.refusal <;>
        simp [viewportAfter, Viewport.cancel, Grants, Settles, windowed, refusal]
  | setWindow | setRefusal => simp [viewportAfter, Grants, Settles]

/-- What an operation must be to change the kept size, told by the mark instead of the past. -/
def Keeps (r : Recording) (operation : Operation) : Prop :=
  r.session.viewport.mode = .windowed ∧
    (operation = .requestFullscreen ∨ operation = .signal .enterSoft ∨
      operation = .signal (.fullscreenChange true) ∧ ¬ r.session.viewport.pending = true)

/-- The kept size is the size that the canvas has before an operation that keeps it. -/
theorem saved_viewportAfter (r : Recording) (operation : Operation) (size : Size) :
    (r.viewportAfter operation).saved = some size ↔
      (r.Keeps operation ∧ r.display.canvas = size) ∨
        r.session.viewport.saved = some size ∧ ¬ r.Keeps operation := by
  by_cases windowed : r.session.viewport.mode = .windowed
  · cases operation with
    | signal signal =>
      cases signal with
      | fullscreenChange fullscreen =>
        cases fullscreen with
        | true =>
          cases pending : r.session.viewport.pending <;>
            simp [viewportAfter, Session.presentation, Viewport.change, Keeps, windowed, pending,
              Display.geometry]
        | false => simp [viewportAfter, Session.presentation, Viewport.change, Keeps]
      | enterSoft =>
        simp [viewportAfter, Session.presentation, Keeps, windowed, Display.geometry]
      | leaveSoft => simp [viewportAfter, Session.presentation, Keeps]
      | life | status | payload | dispatch | print | windowResize =>
        simp [viewportAfter, Session.presentation, Keeps]
    | requestFullscreen =>
      cases refusal : r.display.refusal <;>
        simp [viewportAfter, Viewport.cancel, Keeps, windowed, refusal]
    | setWindow | setRefusal => simp [viewportAfter, Keeps]
  · have unkept : ¬ r.Keeps operation := fun keeps => windowed keeps.1
    have same : (r.viewportAfter operation).saved = r.session.viewport.saved := by
      cases operation with
      | signal signal =>
        cases signal with
        | fullscreenChange fullscreen =>
          cases fullscreen <;> simp [viewportAfter, Session.presentation, Viewport.change, windowed]
        | enterSoft | leaveSoft => simp [viewportAfter, Session.presentation, windowed]
        | life | status | payload | dispatch | print | windowResize => rfl
      | requestFullscreen =>
        cases refusal : r.display.refusal <;>
          simp [viewportAfter, Viewport.cancel, windowed, refusal]
      | setWindow | setRefusal => rfl
    simp [unkept, same]

variable {start : Recording}

/-- The mark stands for the past: it is set exactly while a request is outstanding. -/
theorem pending_iff_outstanding (fresh : start.session.viewport = {}) (operations : List Operation) :
    (start.run operations).session.viewport.pending = true ↔ Outstanding start operations := by
  induction operations using List.reverseRecOn with
  | nil =>
    rw [run_nil, fresh]
    simp [Outstanding, not_since_nil]
  | append_singleton past last ih =>
    rw [run_concat, step_viewport, pending_viewportAfter, ih]
    unfold Outstanding
    rw [since_concat]

/-- An operation keeps the size exactly where it captures one. -/
theorem keeps_iff_captures (fresh : start.session.viewport = {}) (past : List Operation)
    (operation : Operation) : (start.run past).Keeps operation ↔ Captures start past operation := by
  unfold Keeps Captures
  rw [pending_iff_outstanding fresh]

/-- The kept size stands for the past: it is the size before the last capture. -/
theorem saved_iff_lastCaptured (fresh : start.session.viewport = {}) (size : Size)
    (operations : List Operation) :
    (start.run operations).session.viewport.saved = some size ↔
      LastCaptured start size operations := by
  induction operations using List.reverseRecOn with
  | nil =>
    rw [run_nil, fresh]
    simp [LastCaptured, not_since_nil]
  | append_singleton past last ih =>
    rw [run_concat, step_viewport, saved_viewportAfter, ih, keeps_iff_captures fresh]
    unfold LastCaptured
    rw [since_concat]

/-- A canvas that fills the window, or is about to, has a size to go back to. -/
def HasKept (v : Viewport) : Prop :=
  v.mode ≠ .windowed ∨ v.pending = true → v.saved.isSome

/-- No operation makes a canvas fill the window without a size to go back to. -/
theorem hasKept_viewportAfter (r : Recording) (operation : Operation)
    (kept : HasKept r.session.viewport) : HasKept (r.viewportAfter operation) := by
  unfold HasKept at kept ⊢
  by_cases windowed : r.session.viewport.mode = .windowed
  · cases operation with
    | signal signal =>
      cases signal with
      | fullscreenChange fullscreen =>
        cases fullscreen with
        | true =>
          cases pending : r.session.viewport.pending <;>
            simp_all [viewportAfter, Session.presentation, Viewport.change]
        | false => simp_all [viewportAfter, Session.presentation, Viewport.change]
      | enterSoft | leaveSoft => simp_all [viewportAfter, Session.presentation]
      | life | status | payload | dispatch | print | windowResize => exact kept
    | requestFullscreen =>
      cases refusal : r.display.refusal <;>
        simp [viewportAfter, Viewport.cancel, windowed, refusal]
    | setWindow | setRefusal => exact kept
  · have some : r.session.viewport.saved.isSome := kept (Or.inl windowed)
    have unkept : ¬ r.Keeps operation := fun keeps => windowed keeps.1
    obtain ⟨size, saved⟩ := Option.isSome_iff_exists.mp some
    have same := (saved_viewportAfter r operation size).mpr (Or.inr ⟨saved, unkept⟩)
    intro _
    rw [same]
    rfl

/-- In every run a canvas that fills the window, or is about to, has a size to go back to. -/
theorem hasKept_run (fresh : start.session.viewport = {}) (operations : List Operation) :
    HasKept (start.run operations).session.viewport := by
  induction operations using List.reverseRecOn with
  | nil =>
    rw [run_nil, fresh]
    simp [HasKept]
  | append_singleton past last ih =>
    rw [run_concat, step_viewport]
    exact hasKept_viewportAfter _ last ih

/-- A canvas that no longer fills the window takes the kept size, unless that is empty. -/
theorem canvasAfter_of_returns (r : Recording) (operation : Operation)
    (returns : r.Returns operation) :
    r.canvasAfter operation = r.session.viewport.restored?.getD r.display.canvas := by
  obtain ⟨filled, left⟩ := returns
  rw [step_viewport] at left
  cases operation with
  | signal signal =>
    cases signal with
    | fullscreenChange fullscreen =>
      cases fullscreen with
      | true => simp [viewportAfter, Session.presentation, Viewport.change, Viewport.entered] at left
      | false =>
        simp [canvasAfter, Session.presentation, Viewport.change, Viewport.exited, filled]
    | enterSoft =>
      simp only [viewportAfter, Session.presentation, Viewport.mode_enterSoft] at left
      split at left <;> contradiction
    | leaveSoft =>
      simp only [viewportAfter, Session.presentation, Viewport.mode_leaveSoft] at left
      have soft : r.session.viewport.mode = .softFullscreen := by
        cases mode : r.session.viewport.mode <;> simp_all
      simp [canvasAfter, Session.presentation, Viewport.leaveSoft, soft]
    | life | status | payload | dispatch | print | windowResize => exact absurd left filled
  | requestFullscreen =>
    simp only [viewportAfter, Viewport.cancel] at left
    split at left <;> simp_all
  | setWindow | setRefusal => exact absurd left filled

/-- In every run a canvas that no longer fills the window takes the size captured last, unless that
is empty. -/
theorem canvas_of_returns (fresh : start.session.viewport = {}) (operations : List Operation)
    (last : Operation) (returns : (start.run operations).Returns last) :
    ∃ size, LastCaptured start size operations ∧
      ((start.run operations).step last).1.display.canvas =
        if size.isEmpty then (start.run operations).display.canvas else size := by
  have filled := hasKept_run fresh operations (Or.inl returns.1)
  obtain ⟨size, saved⟩ := Option.isSome_iff_exists.mp filled
  refine ⟨size, (saved_iff_lastCaptured fresh size operations).mp saved, ?_⟩
  rw [step_canvas, canvasAfter_of_returns _ last returns, Viewport.restored?, saved]
  simp only [Option.bind_some, Size.nonempty?]
  split <;> rfl

/-- The size that an operation's message carries. -/
def Operation.messageSize? (transport : Transport) : Operation → Option Size
  | .signal told => told.messageSize? transport
  | _ => none

/-- A canvas that stays at its own size changes it only through a message. -/
theorem canvasAfter_of_stays (r : Recording) (operation : Operation)
    (windowed : r.session.viewport.mode = .windowed)
    (stays : (r.viewportAfter operation).mode = .windowed)
    (silent : operation.messageSize? r.session.config.transport = none) :
    r.canvasAfter operation = r.display.canvas := by
  cases operation with
  | signal signal =>
    cases signal with
    | fullscreenChange fullscreen =>
      cases fullscreen with
      | true =>
        simp [viewportAfter, Session.presentation, Viewport.change, Viewport.entered] at stays
      | false =>
        simp [canvasAfter, Session.presentation, Viewport.change, Viewport.exited, windowed]
    | enterSoft => simp [viewportAfter, Session.presentation, windowed] at stays
    | leaveSoft => simp [canvasAfter, Session.presentation, Viewport.leaveSoft, windowed]
    | windowResize => simp [canvasAfter, Session.presentation, Viewport.windowResized, windowed]
    | payload | dispatch =>
      have unsized := congrArg (Option.getD · r.display.canvas) silent
      exact unsized
    | life | status | print => rfl
  | requestFullscreen | setWindow | setRefusal => rfl

/-- The canvas has a size of its own: it has it whenever it does not fill the window, and no other
size is ever kept for it. -/
structure Owns (r : Recording) (size : Size) : Prop where
  /-- The canvas has the size while it does not fill the window. -/
  shown : r.session.viewport.mode = .windowed → r.display.canvas = size
  /-- Only this size is kept. -/
  kept : ∀ other, r.session.viewport.saved = some other → other = size

/-- Without a message that carries a size, an operation leaves the canvas its own size. -/
theorem owns_step (r : Recording) (operation : Operation) (size : Size)
    (solid : size.isEmpty = false) (some : HasKept r.session.viewport) (owns : r.Owns size)
    (silent : operation.messageSize? r.session.config.transport = none) :
    (r.step operation).1.Owns size := by
  constructor
  · intro after
    rw [step_canvas]
    by_cases windowed : r.session.viewport.mode = .windowed
    · rw [step_viewport] at after
      rw [canvasAfter_of_stays r operation windowed after silent]
      exact owns.shown windowed
    · rw [canvasAfter_of_returns r operation ⟨windowed, after⟩]
      obtain ⟨other, saved⟩ := Option.isSome_iff_exists.mp (some (Or.inl windowed))
      obtain rfl := owns.kept other saved
      simp [Viewport.restored?, saved, Size.nonempty?, solid]
  · intro other saved
    rw [step_viewport, saved_viewportAfter] at saved
    rcases saved with ⟨keeps, rfl⟩ | ⟨saved, -⟩
    · exact owns.shown keeps.1
    · exact owns.kept other saved

/-- Without messages that carry a size, a run leaves the canvas its own size. -/
theorem owns_run (fresh : start.session.viewport = {}) (solid : start.display.canvas.isEmpty = false)
    (operations : List Operation)
    (silent : ∀ operation ∈ operations,
      operation.messageSize? start.session.config.transport = none) :
    (start.run operations).Owns start.display.canvas := by
  induction operations using List.reverseRecOn with
  | nil =>
    refine ⟨fun _ => rfl, ?_⟩
    rw [run_nil, fresh]
    simp
  | append_singleton past last ih =>
    have earlier := ih (fun operation member => silent operation (List.mem_append_left _ member))
    have quiet := silent last (by simp)
    rw [run_concat]
    apply owns_step _ last _ solid (hasKept_run fresh past) earlier
    rw [run_config]
    exact quiet

/-- Whenever a canvas no longer fills the window, it has the size it had just before the last step
that captured one, or is left as it is where that size is empty. A canvas that is not empty and gets
no size from a message has its first size whenever it does not fill the window. -/
theorem windowed_size_restored (config : Config) (transcript : Scrollback) (display : Display)
    (operations : List Operation) :
    let start : Recording := ⟨{ config, transcript }, display⟩
    (∀ last, (start.run operations).Returns last →
      ∃ size, LastCaptured start size operations ∧
        ((start.run operations).step last).1.display.canvas =
          if size.isEmpty then (start.run operations).display.canvas else size) ∧
    (display.canvas.isEmpty = false →
      (∀ operation ∈ operations, operation.messageSize? config.transport = none) →
      (start.run operations).session.viewport.mode = .windowed →
      (start.run operations).display.canvas = display.canvas) := by
  intro start
  have fresh : start.session.viewport = {} := rfl
  constructor
  · exact canvas_of_returns fresh operations
  · intro solid silent windowed
    exact (owns_run fresh solid operations silent).shown windowed

/-- A size captured by a request comes back although a message sized the canvas before the platform
answered; and without such a message the first size comes back from soft fullscreen. -/
theorem windowed_size_restored_after_request :
    let start : Recording := ⟨{ config := {}, transcript := {} }, .standard⟩
    let asked : List Operation :=
      [.requestFullscreen, .signal (.dispatch (.resize ⟨640, 480⟩)), .signal (.fullscreenChange true)]
    let soft : List Operation := [.signal .enterSoft, .signal .leaveSoft]
    (∃ size, LastCaptured start size asked ∧
      ((start.run asked).step (.signal (.fullscreenChange false))).1.display.canvas =
        if size.isEmpty then (start.run asked).display.canvas else size) ∧
    (start.run soft).display.canvas = Display.standard.canvas :=
  ⟨(windowed_size_restored {} {} .standard _).1 (.signal (.fullscreenChange false))
      ⟨by decide, by decide⟩,
    (windowed_size_restored {} {} .standard _).2 (by decide) (by decide) (by decide)⟩

end Embed.Recording
