import Embed.Proofs.Independence
/-!
# Status lines as ticks of progress

A status line that reports progress is a tick of progress with a text of its own, and any other
status line is a text and nothing else. So wherever a run has status lines, each of the first kind
can be replaced by the tick that it reports and each of the second kind left out, and nothing but
the text in the status line shows the difference. Nothing reads that text back, which is why the
agreement lasts: `unlined` forgets it, one operation keeps what `unlined` leaves
(`step_of_unlined`), and so does a run.
-/

namespace Embed

namespace Display

/-- A page without the text in its status line. -/
def unlined (display : Display) : Display :=
  { display with status := "" }

/-- Pages that differ in the status line alone still do after any effects. -/
theorem unlined_applyAll {display display' : Display} (same : display.unlined = display'.unlined)
    (effects : List Effect) :
    (display.applyAll effects).unlined = (display'.applyAll effects).unlined := by
  induction effects generalizing display display' with
  | nil => exact same
  | cons effect effects ih =>
    rw [applyAll_cons, applyAll_cons]
    apply ih
    have applied := congrArg (fun page => (page.apply effect).unlined) same
    cases effect <;> exact applied

end Display

/-- A page is to show a status line if and only if it has a text and the module has not failed. -/
theorem Session.status_mem_runtimeStatus (s : Session) (text line : String) :
    Effect.status line ∈ (s.runtimeStatus text).effects ↔
      line = text ∧ text ≠ "" ∧ s.lifecycle.state.isTerminal = false := by
  unfold runtimeStatus
  cases s.lifecycle.state.isTerminal with
  | true => simp
  | false =>
    cases statusSample? text with
    | none => by_cases empty : text = "" <;> simp [empty]
    | some sample => by_cases empty : text = "" <;> simp [empty]

namespace Recording

/-- A recording without the text in the status line of its page. -/
def unlined (r : Recording) : Recording :=
  { r with display := r.display.unlined }

/-- The text in the status line has no part in what an operation does, nor in its reply. -/
theorem step_unlined (r : Recording) (operation : Operation) :
    (r.unlined.step operation).1.unlined = (r.step operation).1.unlined ∧
      (r.unlined.step operation).2 = (r.step operation).2 := by
  cases operation with
  | signal told =>
    have same : r.display.unlined.unlined = r.display.unlined := rfl
    exact ⟨congrArg (mk _) (Display.unlined_applyAll same _), rfl⟩
  | requestFullscreen =>
    simp only [step, requestFullscreen, unlined, Display.unlined]
    cases r.display.refusal <;> exact ⟨rfl, rfl⟩
  | setWindow | setRefusal => exact ⟨rfl, rfl⟩

/-- What differs in the status line alone still does after any operation, and replies alike. -/
theorem step_of_unlined {r r' : Recording} (same : r.unlined = r'.unlined) (operation : Operation) :
    (r.step operation).1.unlined = (r'.step operation).1.unlined ∧
      (r.step operation).2 = (r'.step operation).2 := by
  obtain ⟨here, replies⟩ := step_unlined r operation
  obtain ⟨there, replies'⟩ := step_unlined r' operation
  rw [same] at here replies
  exact ⟨here.symm.trans there, replies.symm.trans replies'⟩

/-- The same is learned from operations that reply alike and leave a difference in the status line
alone, if both are about the module's life or neither is. -/
theorem outcome_eq_of_step {r r' : Recording} {operation operation' : Operation}
    (next : (r.step operation).1.unlined = (r'.step operation').1.unlined)
    (reply : (r.step operation).2 = (r'.step operation').2)
    (about : operation.isLife = operation'.isLife) :
    r.outcome operation = r'.outcome operation' := by
  have state : (r.step operation).1.session.lifecycle.state =
      (r'.step operation').1.session.lifecycle.state :=
    congrArg (fun r => r.session.lifecycle.state) next
  rw [outcome, outcome, reply, state, about]

/-- What is learned from an operation does not depend on the status line. -/
theorem outcome_of_unlined {r r' : Recording} (same : r.unlined = r'.unlined)
    (operation : Operation) : r.outcome operation = r'.outcome operation := by
  obtain ⟨next, reply⟩ := step_of_unlined same operation
  exact outcome_eq_of_step next reply rfl

/-- A status line that reports progress does what a tick of that progress does, the status line
apart, and replies alike. -/
theorem step_status_of_sample (r : Recording) {text : String} {sample : Sample}
    (reads : statusSample? text = some sample) :
    (r.step (.signal (.status text))).1.unlined =
        (r.step (.signal (.life (.progress sample)))).1.unlined ∧
      (r.step (.signal (.status text))).2 = (r.step (.signal (.life (.progress sample)))).2 := by
  obtain ⟨⟨config, ⟨state, revealed, spinnerHidden, dependencies, lastError⟩, viewport, counters,
    transcript⟩, display⟩ := r
  -- The hook shows the bar first and then the line, a tick the other way round.
  cases state with
  | unloaded | loading | ready =>
    simp only [step, tell, Session.receiveSignal, Session.runtimeStatus, reads]
    cases text.isEmpty <;> exact ⟨rfl, rfl⟩
  | errored | crashed => exact ⟨rfl, rfl⟩

/-- A status line that reports no progress changes the status line at most, and has no reply. -/
theorem step_status_of_none (r : Recording) {text : String} (reads : statusSample? text = none) :
    (r.step (.signal (.status text))).1.unlined = r.unlined ∧
      (r.step (.signal (.status text))).2 = .done := by
  simp only [step, tell, Session.receiveSignal, Session.runtimeStatus, reads]
  cases r.session.lifecycle.state.isTerminal <;> cases text.isEmpty <;> exact ⟨rfl, rfl⟩

/-- The line that a page shows after a status line. -/
theorem status_step (r : Recording) (text : String) :
    (r.step (.signal (.status text))).1.display.status =
      if text ≠ "" ∧ r.session.lifecycle.state.isTerminal = false then text
      else r.display.status := by
  simp only [step, tell, Session.receiveSignal, Session.runtimeStatus]
  cases r.session.lifecycle.state.isTerminal with
  | true => simp [Display.applyAll]
  | false =>
    cases statusSample? text with
    | none =>
      by_cases empty : text = "" <;> simp [empty, Display.applyAll, Display.apply]
    | some sample =>
      cases shown : (r.session.lifecycle.progress sample).2.progress <;>
        by_cases empty : text = "" <;> simp [empty, shown, Display.applyAll, Display.apply]

/-- One operation of a run, and what is done in its place. -/
inductive Edit where
  /-- The operation stays. -/
  | keep (operation : Operation)
  /-- A status line that reports progress becomes a tick of that progress. -/
  | tick (text : String) (sample : Sample) (reads : statusSample? text = some sample)
  /-- A status line that reports no progress is left out. -/
  | drop (text : String) (reads : statusSample? text = none)

/-- The operation as it was. -/
def Edit.before : Edit → Operation
  | .keep operation => operation
  | .tick text _ _ => .signal (.status text)
  | .drop text _ => .signal (.status text)

/-- What is done in its place: one operation or none. -/
def Edit.after : Edit → Option Operation
  | .keep operation => some operation
  | .tick _ sample _ => some (.signal (.life (.progress sample)))
  | .drop _ _ => none

/-- What differs in the status line alone still does after an operation here and what is done in its
place there. -/
theorem Edit.unlined_run {r r' : Recording} (same : r.unlined = r'.unlined) (edit : Edit) :
    (r.step edit.before).1.unlined = (r'.run edit.after.toList).unlined := by
  cases edit with
  | keep operation => exact (step_of_unlined same operation).1
  | tick text sample reads =>
    calc (r.step (.signal (.status text))).1.unlined
      _ = (r.step (.signal (.life (.progress sample)))).1.unlined :=
          (step_status_of_sample r reads).1
      _ = (r'.step (.signal (.life (.progress sample)))).1.unlined :=
          (step_of_unlined same _).1
  | drop text reads =>
    calc (r.step (.signal (.status text))).1.unlined
      _ = r.unlined := (step_status_of_none r reads).1
      _ = r'.unlined := same

/-- What is learned from an operation is learned from what is done in its place. -/
theorem Edit.outcome_eq {r r' : Recording} (same : r.unlined = r'.unlined) (edit : Edit)
    {operation : Operation} (placed : edit.after = some operation) :
    r.outcome edit.before = r'.outcome operation := by
  cases edit with
  | keep kept =>
    obtain rfl : kept = operation := Option.some.inj placed
    exact outcome_of_unlined same kept
  | tick text sample reads =>
    obtain rfl : Operation.signal (.life (.progress sample)) = operation := Option.some.inj placed
    obtain ⟨next, reply⟩ := step_status_of_sample r reads
    calc r.outcome (.signal (.status text))
      _ = r.outcome (.signal (.life (.progress sample))) := outcome_eq_of_step next reply rfl
      _ = r'.outcome (.signal (.life (.progress sample))) := outcome_of_unlined same _
  | drop text reads => contradiction

/-- What differs in the status line alone still does after a run here and the edited run there. -/
theorem unlined_run_edited {r r' : Recording} (same : r.unlined = r'.unlined)
    (edits : List Edit) :
    (r.run (edits.map Edit.before)).unlined = (r'.run (edits.filterMap Edit.after)).unlined := by
  induction edits generalizing r r' with
  | nil => exact same
  | cons edit later ih =>
    have next := edit.unlined_run same
    rw [List.map_cons, run_cons, List.filterMap_cons]
    cases placed : edit.after with
    | none =>
      rw [placed] at next
      exact ih next
    | some operation =>
      rw [placed] at next
      exact ih next

/-- However many status lines of a run become the ticks that they report, or are left out where they
report none, the two runs stand alike after every operation and what is done in its place, the
status line apart, and the same is learned from them. In the run as it was, a status line is shown
if and only if it has a text and the module has not failed. -/
theorem status_is_tick_with_text (start : Recording) (edits : List Edit) :
    let original := start.run (edits.map Edit.before)
    let edited := start.run (edits.filterMap Edit.after)
    original.unlined = edited.unlined ∧
    (∀ next : Edit, ∀ operation ∈ next.after,
      original.outcome next.before = edited.outcome operation) ∧
    ∀ text : String,
      let alive := original.session.lifecycle.state.isTerminal = false
      (∀ line, Effect.status line ∈ (original.session.runtimeStatus text).effects ↔
        line = text ∧ text ≠ "" ∧ alive) ∧
      (original.step (.signal (.status text))).1.display.status =
        if text ≠ "" ∧ alive then text else original.display.status := by
  intro original edited
  have same : original.unlined = edited.unlined := unlined_run_edited rfl edits
  refine ⟨same, ?_, ?_⟩
  · intro next operation placed
    exact next.outcome_eq same placed
  · intro text alive
    exact ⟨original.session.status_mem_runtimeStatus text, original.status_step text⟩

/-- A status line with progress and one without, of which the edited run has a tick; a second tick
replies alike in both, and the line that reports it is shown. -/
theorem status_is_tick_with_text_fetch :
    let start := Recording.new {} .standard
    let edits : List Edit := [.tick "fetch (1/2)" (.bytes 1.0 2.0) rfl, .drop "unpack" rfl]
    let next : Edit := .tick "fetch (2/2)" (.bytes 2.0 2.0) rfl
    let original := start.run (edits.map Edit.before)
    let edited := start.run (edits.filterMap Edit.after)
    edited = start.run [.signal (.life (.progress (.bytes 1.0 2.0)))] ∧
      original.unlined = edited.unlined ∧
      Operation.signal (.life (.progress (.bytes 2.0 2.0))) ∈ next.after ∧
      original.outcome next.before =
        edited.outcome (.signal (.life (.progress (.bytes 2.0 2.0)))) ∧
      (original.step next.before).1.display.status = "fetch (2/2)" := by
  intro start edits next original edited
  obtain ⟨same, learned, shown⟩ := status_is_tick_with_text start edits
  have placed : Operation.signal (.life (.progress (.bytes 2.0 2.0))) ∈ next.after := rfl
  exact ⟨rfl, same, placed, learned next _ placed, (shown "fetch (2/2)").2⟩

end Recording

end Embed
