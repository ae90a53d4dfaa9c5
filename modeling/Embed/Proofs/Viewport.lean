import Embed.Viewport
/-!
# What each change of a viewport does to its parts

One law for each change and each part of a viewport: its mode, the size it keeps, and the mark for
an awaited notification. Everything said of viewports over a run rests on these.
-/

namespace Embed

namespace Viewport

/-- Capturing keeps the size of a canvas at its own size. -/
@[simp]
theorem saved_capture (v : Viewport) (current : Size) :
    (v.capture current).saved = if v.mode = .windowed then some current else v.saved := by
  unfold capture
  split <;> rfl

/-- Capturing does not change the mode. -/
@[simp]
theorem mode_capture (v : Viewport) (current : Size) : (v.capture current).mode = v.mode := by
  unfold capture
  split <;> rfl

/-- Capturing does not touch an awaited notification. -/
@[simp]
theorem pending_capture (v : Viewport) (current : Size) :
    (v.capture current).pending = v.pending := by
  unfold capture
  split <;> rfl

/-- A request keeps the size of a canvas at its own size. -/
@[simp]
theorem saved_request (v : Viewport) (current : Size) :
    (v.request current).saved = if v.mode = .windowed then some current else v.saved := by
  unfold request
  by_cases windowed : v.mode = .windowed
  · simp [windowed]
  · simp [windowed]

/-- A request does not change the mode. -/
@[simp]
theorem mode_request (v : Viewport) (current : Size) : (v.request current).mode = v.mode := by
  unfold request
  split
  · exact mode_capture v current
  · rfl

/-- A notification is awaited from a request on that finds the canvas at its own size. -/
@[simp]
theorem pending_request (v : Viewport) (current : Size) :
    (v.request current).pending = if v.mode = .windowed then true else v.pending := by
  unfold request
  split <;> rfl

/-- A notification of fullscreen keeps the size of a canvas at its own size, unless it was awaited.
-/
@[simp]
theorem saved_entered (v : Viewport) (current window : Size) :
    (v.entered current window).1.saved =
      if v.pending = false ∧ v.mode = .windowed then some current else v.saved := by
  unfold entered
  cases v.pending <;> simp

/-- When fullscreen is over the canvas has its own size. -/
@[simp]
theorem mode_exited (v : Viewport) : v.exited.1.mode = .windowed := by
  unfold exited
  by_cases windowed : v.mode = .windowed
  · rw [if_pos windowed]
    exact windowed
  · rw [if_neg windowed]

/-- The end of fullscreen does not touch the kept size. -/
@[simp]
theorem saved_exited (v : Viewport) : v.exited.1.saved = v.saved := by
  unfold exited
  split <;> rfl

/-- The end of fullscreen does not touch an awaited notification. -/
@[simp]
theorem pending_exited (v : Viewport) : v.exited.1.pending = v.pending := by
  unfold exited
  split <;> rfl

/-- Soft fullscreen gives way to the platform's. -/
@[simp]
theorem mode_enterSoft (v : Viewport) (current window : Size) :
    (v.enterSoft current window).1.mode =
      if v.mode = .fullscreen then .fullscreen else .softFullscreen := by
  unfold enterSoft
  by_cases full : v.mode = .fullscreen
  · rw [if_pos full, if_pos full]
    exact full
  · rw [if_neg full, if_neg full]

/-- Soft fullscreen keeps the size of a canvas at its own size. -/
@[simp]
theorem saved_enterSoft (v : Viewport) (current window : Size) :
    (v.enterSoft current window).1.saved =
      if v.mode = .windowed then some current else v.saved := by
  unfold enterSoft
  by_cases full : v.mode = .fullscreen
  · simp [full]
  · rw [if_neg full]
    exact saved_capture v current

/-- Soft fullscreen does not touch an awaited notification. -/
@[simp]
theorem pending_enterSoft (v : Viewport) (current window : Size) :
    (v.enterSoft current window).1.pending = v.pending := by
  unfold enterSoft
  split
  · rfl
  · exact pending_capture v current

/-- Leaving soft fullscreen leaves the platform's alone. -/
@[simp]
theorem mode_leaveSoft (v : Viewport) :
    v.leaveSoft.1.mode = if v.mode = .fullscreen then .fullscreen else .windowed := by
  unfold leaveSoft
  cases mode : v.mode <;> simp [mode]

/-- Leaving soft fullscreen does not touch the kept size. -/
@[simp]
theorem saved_leaveSoft (v : Viewport) : v.leaveSoft.1.saved = v.saved := by
  unfold leaveSoft
  split <;> rfl

/-- Leaving soft fullscreen does not touch an awaited notification. -/
@[simp]
theorem pending_leaveSoft (v : Viewport) : v.leaveSoft.1.pending = v.pending := by
  unfold leaveSoft
  split <;> rfl

end Viewport

end Embed
