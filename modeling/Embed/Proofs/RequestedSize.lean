import Embed.Proofs.WindowedSize
/-!
# A requested size until its notification

A request keeps the size of the canvas at once, although the platform enters fullscreen later. The
canvas may change in between, and the size of the request should still come back. It does exactly if
it is the size that was captured last. There is room for one size and one mark only: soft fullscreen,
and a request that is refused, put theirs in place of the size of the request. A refusal also takes
the mark away, and then the notification captures the canvas as one that nobody asked for.
-/

namespace Embed.Recording

/-- Somewhere in a run the platform notifies of fullscreen, or grants a request: an earlier request
waits no longer. -/
def Answered (r : Recording) : List Operation → Prop :=
  Since (fun past operation => operation = .signal (.fullscreenChange true) ∨
    operation = .requestFullscreen ∧ (r.run past).display.refusal = none) (fun _ _ => False)

/-- A longer run answers a request if its last step does, or the run before it. -/
theorem answered_concat (r : Recording) (operations : List Operation) (last : Operation) :
    Answered r (operations ++ [last]) ↔
      (last = .signal (.fullscreenChange true) ∨
        last = .requestFullscreen ∧ (r.run operations).display.refusal = none) ∨
      Answered r operations := by
  unfold Answered
  rw [since_concat]
  simp only [not_false_eq_true, and_true]

/-- A request waits through a run without notifications of fullscreen and without requests. -/
theorem not_answered (r : Recording) (operations : List Operation)
    (silent : ∀ operation ∈ operations,
      operation ≠ .signal (.fullscreenChange true) ∧ operation ≠ .requestFullscreen) :
    ¬ Answered r operations := by
  rintro ⟨earlier, operation, later, rfl, answers, -⟩
  obtain ⟨unnotified, unasked⟩ := silent operation (by simp)
  rcases answers with notified | ⟨asked, -⟩
  · exact unnotified notified
  · exact unasked asked

variable {start : Recording} {past gap : List Operation}

/-- While a granted request waits, it is outstanding exactly as long as no other is refused. -/
theorem outstanding_iff_not_mem (granted : (start.run past).Grants .requestFullscreen)
    (waits : ¬ Answered (start.run (past ++ [.requestFullscreen])) gap) :
    Outstanding start (past ++ .requestFullscreen :: gap) ↔ .requestFullscreen ∉ gap := by
  induction gap using List.reverseRecOn with
  | nil =>
    unfold Outstanding
    rw [since_concat]
    simp [granted]
  | append_singleton front last ih =>
    have found : (start.run (past ++ [.requestFullscreen])).run front =
        start.run (past ++ .requestFullscreen :: front) := by
      rw [← run_append, List.append_assoc, List.singleton_append]
    rw [answered_concat, not_or, found] at waits
    obtain ⟨unanswered, earlier⟩ := waits
    have still := ih earlier
    have ungranted : ¬ (start.run (past ++ .requestFullscreen :: front)).Grants last :=
      fun grants => unanswered (Or.inr ⟨grants.1, grants.2.2⟩)
    -- Nothing notifies of fullscreen here, so a request is settled by a refusal only.
    have settles : (start.run (past ++ .requestFullscreen :: front)).Settles last ↔
        last = .requestFullscreen := by
      constructor
      · rintro (notified | ⟨request, -⟩)
        · exact absurd (Or.inl notified) unanswered
        · exact request
      · intro request
        exact Or.inr ⟨request, fun allowed => unanswered (Or.inr ⟨request, allowed⟩)⟩
    unfold Outstanding at still ⊢
    rw [← List.cons_append, ← List.append_assoc, since_concat, still, settles]
    simp only [ungranted, false_or, List.mem_append, List.mem_singleton, not_or, eq_comm]

/-- A request that waits through a gap without other requests and without soft fullscreen has
captured the canvas last, also when the notification comes: that one is awaited and captures
nothing. -/
theorem lastCaptured_request (granted : (start.run past).Grants .requestFullscreen)
    (waits : ¬ Answered (start.run (past ++ [.requestFullscreen])) gap)
    (unasked : .requestFullscreen ∉ gap) (hard : .signal .enterSoft ∉ gap) :
    LastCaptured start (start.run past).display.canvas
      (past ++ .requestFullscreen :: gap ++ [.signal (.fullscreenChange true)]) := by
  have outstanding := (outstanding_iff_not_mem granted waits).mpr unasked
  unfold LastCaptured
  rw [since_concat]
  refine Or.inr ⟨⟨past, .requestFullscreen, gap, rfl, ⟨⟨granted.2.1, Or.inl rfl⟩, rfl⟩, ?_⟩, ?_⟩
  · rintro between next rest rfl ⟨-, request | soft | ⟨notified, -⟩⟩
    · exact unasked (by simp [request])
    · exact hard (by simp [soft])
    · exact waits ⟨between, next, rest, rfl, Or.inl notified, fun _ _ _ _ => id⟩
  · rintro ⟨-, request | soft | ⟨-, unawaited⟩⟩
    · contradiction
    · simp at soft
    · exact unawaited outstanding

/-- Only one size was captured last. -/
theorem lastCaptured_unique (fresh : start.session.viewport = {}) {operations : List Operation}
    {size other : Size} (captured : LastCaptured start size operations)
    (also : LastCaptured start other operations) : size = other := by
  rw [← saved_iff_lastCaptured fresh] at captured also
  exact Option.some.inj (captured.symm.trans also)

/-- A canvas that no longer fills the window has a given size, itself not empty, exactly if that was
captured last, or if an empty size was and the canvas had the given one already. -/
theorem canvas_returned_iff (fresh : start.session.viewport = {}) (operations : List Operation)
    (last : Operation) (returns : (start.run operations).Returns last) {size : Size}
    (solid : size.isEmpty = false) :
    ((start.run operations).step last).1.display.canvas = size ↔
      LastCaptured start size operations ∨
        (start.run operations).display.canvas = size ∧
          ∃ other, other.isEmpty = true ∧ LastCaptured start other operations := by
  obtain ⟨kept, captured, back⟩ := canvas_of_returns fresh operations last returns
  rw [back]
  constructor
  · intro same
    by_cases empty : kept.isEmpty = true
    · rw [if_pos empty] at same
      exact Or.inr ⟨same, kept, empty, captured⟩
    · rw [if_neg empty] at same
      exact Or.inl (same ▸ captured)
  · rintro (also | ⟨same, other, empty, also⟩)
    · rw [lastCaptured_unique fresh captured also, solid]
      rfl
    · rw [lastCaptured_unique fresh captured also, if_pos empty]
      exact same

/-- A canvas in the platform's fullscreen is given back to the window when the platform leaves it. -/
theorem returns_of_entered (r : Recording) :
    (r.step (.signal (.fullscreenChange true))).1.Returns (.signal (.fullscreenChange false)) := by
  constructor
  · rw [step_viewport]
    simp [viewportAfter, Session.presentation, Viewport.change, Viewport.entered]
  · rw [step_viewport]
    exact Viewport.mode_exited (r.step (.signal (.fullscreenChange true))).1.session.viewport

/-- A request is granted, and waits through a gap. Its mark is there after it exactly if no other
request is refused in it, and the size that is kept is the one that was captured last. When the
platform then enters fullscreen and leaves it, the canvas gets the size that was captured last, or is
left as it is where that size is empty. So the requested size comes back exactly if it is the one
captured last, or the canvas that is left as it is happens to have it. It always does after a gap
without other requests and without soft fullscreen. -/
theorem requested_size_survives_iff (config : Config) (transcript : Scrollback) (display : Display)
    (past gap : List Operation) :
    let start : Recording := ⟨{ config, transcript }, display⟩
    let asked := past ++ .requestFullscreen :: gap
    let entered := asked ++ [.signal (.fullscreenChange true)]
    let left := entered ++ [.signal (.fullscreenChange false)]
    let requested := (start.run past).display.canvas
    (start.run past).Grants .requestFullscreen → requested.isEmpty = false →
    ¬ Answered (start.run (past ++ [.requestFullscreen])) gap →
    ((start.run asked).session.viewport.pending = true ↔ .requestFullscreen ∉ gap) ∧
    (∀ size, (start.run asked).session.viewport.saved = some size ↔ LastCaptured start size asked) ∧
    (∃ size, LastCaptured start size entered ∧
      (start.run left).display.canvas =
        if size.isEmpty then (start.run entered).display.canvas else size) ∧
    ((start.run left).display.canvas = requested ↔
      LastCaptured start requested entered ∨
        (start.run entered).display.canvas = requested ∧
          ∃ size, size.isEmpty = true ∧ LastCaptured start size entered) ∧
    (.requestFullscreen ∉ gap → .signal .enterSoft ∉ gap →
      (start.run left).display.canvas = requested) := by
  intro start asked entered left requested granted solid waits
  have fresh : start.session.viewport = {} := rfl
  have returns : (start.run entered).Returns (.signal (.fullscreenChange false)) := by
    rw [run_concat]
    exact returns_of_entered _
  have returned := canvas_of_returns fresh entered _ returns
  have exactly := canvas_returned_iff fresh entered _ returns solid
  rw [← run_concat] at returned exactly
  refine ⟨?_, fun size => saved_iff_lastCaptured fresh size asked, returned, exactly, ?_⟩
  · rw [pending_iff_outstanding fresh]
    exact outstanding_iff_not_mem granted waits
  · intro unasked hard
    exact exactly.mpr (Or.inl (lastCaptured_request granted waits unasked hard))

/-- Soft fullscreen captures a size that a message gave the canvas, and then, after a message that
gives it the requested size again, captures that one. The requested size comes back. -/
theorem requested_size_survives_second_capture :
    let start : Recording := ⟨{ config := {}, transcript := {} }, .standard⟩
    let resize (size : Size) : Operation := .signal (.dispatch (.resize size))
    let soft : List Operation := [.signal .enterSoft, .signal .leaveSoft]
    let gap := resize ⟨1024, 768⟩ :: soft ++ resize ⟨800, 600⟩ :: soft
    let asked := .requestFullscreen :: gap
    let entered := asked ++ [.signal (.fullscreenChange true)]
    start.Grants .requestFullscreen ∧ start.display.canvas = ⟨800, 600⟩ ∧
      ¬ Answered (start.run [.requestFullscreen]) gap ∧
      (start.run asked).session.viewport.pending = true ∧
      (start.run (entered ++ [.signal (.fullscreenChange false)])).display.canvas = ⟨800, 600⟩ := by
  intro start resize soft gap asked entered
  have granted : start.Grants .requestFullscreen := ⟨rfl, rfl, rfl⟩
  have waits : ¬ Answered (start.run [.requestFullscreen]) gap :=
    not_answered _ gap (by simp [gap, soft, resize])
  have last : LastCaptured start ⟨800, 600⟩ entered :=
    (saved_iff_lastCaptured rfl _ entered).mp (by decide)
  obtain ⟨mark, -, -, survives, -⟩ :=
    requested_size_survives_iff {} {} .standard [] gap granted (by decide) waits
  exact ⟨granted, rfl, waits, mark.mpr (by simp [gap, soft, resize]), survives.mpr (Or.inl last)⟩

/-- A message sizes the canvas while a request waits, and then soft fullscreen is entered and left.
The request is still marked, but its size is no longer kept: the size of the message comes back, also
if another message sizes the canvas again. The same size comes back if the message is followed by a
request that is refused. -/
theorem requested_size_lost :
    let start : Recording := ⟨{ config := {}, transcript := {} }, .standard⟩
    let resize (size : Size) : Operation := .signal (.dispatch (.resize size))
    let soft := [resize ⟨1024, 768⟩, .signal .enterSoft, .signal .leaveSoft]
    let sized := soft ++ [resize ⟨640, 480⟩]
    let refused := [resize ⟨1024, 768⟩, .setRefusal (some "not allowed")] ++ [.requestFullscreen]
    start.Grants .requestFullscreen ∧ start.display.canvas = ⟨800, 600⟩ ∧
    (∀ gap ∈ [soft, sized],
      (start.run (.requestFullscreen :: gap)).session.viewport.pending = true ∧
      (start.run (.requestFullscreen :: gap)).session.viewport.saved = some ⟨1024, 768⟩) ∧
    ∀ gap ∈ [soft, sized, refused],
      ¬ Answered (start.run [.requestFullscreen]) gap ∧
      (start.run (.requestFullscreen :: gap ++
        [.signal (.fullscreenChange true), .signal (.fullscreenChange false)])).display.canvas =
          ⟨1024, 768⟩ := by
  intro start resize soft sized refused
  have waits : ∀ gap ∈ [soft, sized, refused], ¬ Answered (start.run [.requestFullscreen]) gap := by
    simp only [List.forall_mem_cons, List.not_mem_nil, false_implies, implies_true, and_true]
    refine ⟨not_answered _ soft (by simp [soft, resize]),
      not_answered _ sized (by simp [sized, soft, resize]), ?_⟩
    rw [answered_concat, not_or]
    exact ⟨by simp [start, resize, step], not_answered _ _ (by simp [resize])⟩
  refine ⟨⟨rfl, rfl, rfl⟩, rfl, by decide, fun gap member => ⟨waits gap member, ?_⟩⟩
  have lost : ∀ gap ∈ [soft, sized, refused], (start.run (.requestFullscreen :: gap ++
      [.signal (.fullscreenChange true), .signal (.fullscreenChange false)])).display.canvas =
        ⟨1024, 768⟩ := by decide
  exact lost gap member

end Embed.Recording
