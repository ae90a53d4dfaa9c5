import Embed.Proofs.Lifecycle
import Mathlib.Data.List.Induction
/-!
# What is visible mirrors the module's life

The spinner is there while the module is waited for, canvas and output from the moment it runs. The
life of a module keeps two flags for that, and each transition says what appears and goes, so the
page only ever follows the flags: it shows a part exactly where the flag says so, and has shown or
hidden it exactly once if the flag was ever raised.
-/

namespace Embed

/-- A page shows and hides its parts as the flags of a life say, and has not done so needlessly. -/
structure Display.Mirrors (display : Display) (life : Lifecycle) : Prop where
  /-- The spinner is there until it has gone, canvas and output once they are revealed. -/
  visible : display.visible = ⟨!life.spinnerHidden, life.revealed, life.revealed⟩
  /-- Each part changed as often as its flag did. -/
  toggles : display.toggles =
    ⟨life.spinnerHidden.toNat, life.revealed.toNat, life.revealed.toNat⟩

/-- A page mirrors a life as before while neither its parts nor the flags change. -/
theorem Display.Mirrors.congr {display display' : Display} {life life' : Lifecycle}
    (mirrors : display.Mirrors life)
    (parts : display'.visible = display.visible ∧ display'.toggles = display.toggles)
    (flags : life'.revealed = life.revealed ∧ life'.spinnerHidden = life.spinnerHidden) :
    display'.Mirrors life' := by
  obtain ⟨visible, toggles⟩ := mirrors
  refine ⟨?_, ?_⟩
  · rw [parts.1, flags.1, flags.2, visible]
  · rw [parts.2, flags.1, flags.2, toggles]

/-- What a page that mirrors a coherent life shows, told by where the module is. -/
theorem Display.Mirrors.parts {display : Display} {life : Lifecycle}
    (mirrors : display.Mirrors life) (coherent : life.Coherent) :
    display.visible = ⟨life.state.isWaiting, life.isUsable, life.isUsable⟩ ∧
      display.toggles =
        ⟨(!life.state.isWaiting).toNat, life.isUsable.toNat, life.isUsable.toNat⟩ := by
  obtain ⟨visible, toggles⟩ := mirrors
  rw [coherent.spinner] at visible toggles
  rw [Bool.not_not] at visible
  exact ⟨visible, toggles⟩

namespace Lifecycle

variable {life next : Lifecycle} {event : Event} {t : Transition}

/-- A transition under which nothing appears or goes leaves the parts of a page alone. -/
theorem Transition.parts_of_still (display : Display) (covered : t.reveal = false)
    (turning : t.hideSpinner = false) :
    (display.applyAll t.effects).visible = display.visible ∧
      (display.applyAll t.effects).toggles = display.toggles := by
  obtain ⟨changed, status, progress, reveal, hideSpinner⟩ := t
  obtain rfl : reveal = false := covered
  obtain rfl : hideSpinner = false := turning
  cases status <;> cases progress <;> exact ⟨rfl, rfl⟩

/-- A transition that reveals changes every part once. -/
theorem Transition.parts_of_reveal (display : Display) (reveals : t.reveal = true) :
    (display.applyAll t.effects).visible = ⟨false, true, true⟩ ∧
      (display.applyAll t.effects).toggles =
        ⟨display.toggles.spinner + 1, display.toggles.canvas + 1, display.toggles.output + 1⟩ := by
  obtain ⟨changed, status, progress, reveal, hideSpinner⟩ := t
  obtain rfl : reveal = true := reveals
  cases status <;> cases progress <;> exact ⟨rfl, rfl⟩

/-- A transition under which only the spinner goes changes the spinner once. -/
theorem Transition.parts_of_hide (display : Display) (covered : t.reveal = false)
    (hides : t.hideSpinner = true) :
    (display.applyAll t.effects).visible = { display.visible with spinner := false } ∧
      (display.applyAll t.effects).toggles =
        { display.toggles with spinner := display.toggles.spinner + 1 } := by
  obtain ⟨changed, status, progress, reveal, hideSpinner⟩ := t
  obtain rfl : reveal = false := covered
  obtain rfl : hideSpinner = true := hides
  cases status <;> cases progress <;> exact ⟨rfl, rfl⟩

/-- A page that mirrors a life mirrors it after every move. -/
theorem Move.mirrors (move : Move life event next t) (coherent : life.Coherent) {display : Display}
    (mirrors : display.Mirrors life) : (display.applyAll t.effects).Mirrors next := by
  cases move with
  | late | idle => exact mirrors.congr ⟨rfl, rfl⟩ ⟨rfl, rfl⟩
  | loads => exact mirrors.congr (Transition.parts_of_still display rfl rfl) ⟨rfl, rfl⟩
  | runs alive status =>
    -- Both flags stand alike until the module fails, so they are raised together or not at all.
    have hidden := coherent.hidden_of_alive alive
    have reveal : (life.revelation status).reveal = !life.revealed := rfl
    cases revealed : life.revealed with
    | true =>
      rw [revealed] at hidden reveal
      exact mirrors.congr (Transition.parts_of_still display reveal rfl)
        ⟨revealed.symm, hidden.symm⟩
    | false =>
      rw [revealed] at hidden reveal
      obtain ⟨visible, toggles⟩ := Transition.parts_of_reveal display reveal
      rw [mirrors.toggles, hidden, revealed] at toggles
      exact ⟨visible, toggles⟩
  | fails alive _ state terminal status =>
    cases hidden : life.spinnerHidden with
    | true => exact mirrors.congr (Transition.parts_of_still display rfl rfl) ⟨rfl, hidden.symm⟩
    | false =>
      have hides : ({ changed := true, status := some status, hideSpinner := true } :
          Transition).hideSpinner = true := rfl
      obtain ⟨visible, toggles⟩ := Transition.parts_of_hide display rfl hides
      rw [mirrors.visible] at visible
      rw [mirrors.toggles, hidden] at toggles
      exact ⟨visible, toggles⟩

/-- Progress leaves the flags of a life alone. -/
theorem progress_flags (life : Lifecycle) (sample : Sample) :
    (life.progress sample).1.revealed = life.revealed ∧
      (life.progress sample).1.spinnerHidden = life.spinnerHidden := by
  unfold progress
  cases life.state <;> exact ⟨rfl, rfl⟩

end Lifecycle

namespace Session

/-- A status line leaves the parts of a page alone. -/
theorem parts_runtimeStatus (s : Session) (text : String) (display : Display) :
    (display.applyAll (s.runtimeStatus text).effects).visible = display.visible ∧
      (display.applyAll (s.runtimeStatus text).effects).toggles = display.toggles := by
  unfold runtimeStatus
  split
  · exact ⟨rfl, rfl⟩
  · cases statusSample? text with
    | none =>
      dsimp only
      split <;> exact ⟨rfl, rfl⟩
    | some sample =>
      dsimp only
      cases (s.lifecycle.progress sample).2.progress <;> split <;> exact ⟨rfl, rfl⟩

/-- A status line leaves the flags of the module's life alone. -/
theorem flags_runtimeStatus (s : Session) (text : String) :
    (s.runtimeStatus text).session.lifecycle.revealed = s.lifecycle.revealed ∧
      (s.runtimeStatus text).session.lifecycle.spinnerHidden = s.lifecycle.spinnerHidden := by
  rw [runtimeStatus_lifecycle]
  cases statusSample? text with
  | none => exact ⟨rfl, rfl⟩
  | some sample => exact s.lifecycle.progress_flags sample

end Session

namespace Recording

/-- A page that mirrors the module's life mirrors it after every operation. -/
theorem mirrors_step (r : Recording) (operation : Operation)
    (coherent : r.session.lifecycle.Coherent) (mirrors : r.display.Mirrors r.session.lifecycle) :
    (r.step operation).1.display.Mirrors (r.step operation).1.session.lifecycle := by
  cases life : operation.isLife with
  | false =>
    rw [step_of_rest r life]
    exact mirrors.congr ⟨rfl, rfl⟩ ⟨rfl, rfl⟩
  | true =>
    rcases Operation.eq_of_isLife life with ⟨event, rfl⟩ | ⟨text, rfl⟩
    · exact (r.session.lifecycle.step_moves event).mirrors coherent mirrors
    · exact mirrors.congr (r.session.parts_runtimeStatus text r.display)
        (r.session.flags_runtimeStatus text)

/-- In every run a page that mirrors the module's life goes on to do so. -/
theorem mirrors_run (r : Recording) (coherent : r.session.lifecycle.Coherent)
    (mirrors : r.display.Mirrors r.session.lifecycle) (operations : List Operation) :
    (r.run operations).display.Mirrors (r.run operations).session.lifecycle := by
  induction operations using List.reverseRecOn with
  | nil => exact mirrors
  | append_singleton past last ih =>
    rw [run_concat]
    exact mirrors_step _ last (coherent_run r coherent past) ih

/-- An operation reveals the module exactly if the module runs afterwards. -/
theorem revealed_step (r : Recording) (operation : Operation)
    (coherent : r.session.lifecycle.Coherent) :
    (r.step operation).1.session.lifecycle.revealed =
      (r.session.lifecycle.revealed || (r.step operation).1.session.lifecycle.state.isReady) := by
  rw [step_lifecycle]
  cases operation.event? with
  | none =>
    cases ready : r.session.lifecycle.state.isReady with
    | true => simp [Lifecycle.after, coherent.ready ready]
    | false => simp [Lifecycle.after, ready]
  | some event => exact (r.session.lifecycle.step_moves event).revealed coherent

/-- A module has been revealed exactly if it has run at some point. -/
theorem revealed_iff_ran {start : Recording} (fresh : start.session.lifecycle = {})
    (operations : List Operation) :
    (start.run operations).session.lifecycle.revealed = true ↔
      ∃ earlier, earlier <+: operations ∧
        (start.run earlier).session.lifecycle.state.isReady = true := by
  have coherent : start.session.lifecycle.Coherent := by
    rw [fresh]
    exact Lifecycle.coherent_new
  induction operations using List.reverseRecOn with
  | nil => simp [fresh, Lifecycle.State.isReady]
  | append_singleton past last ih =>
    rw [run_concat, revealed_step _ last (coherent_run start coherent past), Bool.or_eq_true,
      ← run_concat]
    constructor
    · rintro (before | now)
      · obtain ⟨earlier, inside, ran⟩ := ih.mp before
        exact ⟨earlier, inside.trans (List.prefix_append past [last]), ran⟩
      · exact ⟨past ++ [last], List.prefix_rfl, now⟩
    · rintro ⟨earlier, inside, ran⟩
      rcases List.prefix_concat_iff.mp inside with rfl | inside
      · exact Or.inr ran
      · exact Or.inl (ih.mpr ⟨earlier, inside, ran⟩)

/-- The spinner is visible exactly while the module is waited for. Canvas and output are visible
exactly if the module can be used, that is, if it has run at some point of the run. Each part has
changed at most once: the spinner once the module is no longer waited for, the others once it can be
used. After a failure nothing appears or goes any more. -/
theorem visibility_mirrors_life (config : Config) (transcript : Scrollback) (canvas window : Size)
    (operations : List Operation) :
    let start : Recording := ⟨{ config, transcript }, { canvas, window }⟩
    let life := (start.run operations).session.lifecycle
    let display := (start.run operations).display
    display.visible = ⟨life.state.isWaiting, life.isUsable, life.isUsable⟩ ∧
      display.toggles =
        ⟨(!life.state.isWaiting).toNat, life.isUsable.toNat, life.isUsable.toNat⟩ ∧
      (life.isUsable = true ↔
        ∃ earlier, earlier <+: operations ∧ (start.run earlier).session.lifecycle.state = .ready) ∧
      (life.state.isTerminal = true → ∀ later,
        ((start.run operations).run later).display.visible =
            ⟨false, life.isUsable, life.isUsable⟩ ∧
          ((start.run operations).run later).display.toggles =
            ⟨1, life.isUsable.toNat, life.isUsable.toNat⟩) := by
  intro start life display
  have fresh : start.session.lifecycle = {} := rfl
  have coherent : start.session.lifecycle.Coherent := Lifecycle.coherent_new
  have begins : start.display.Mirrors start.session.lifecycle := ⟨rfl, rfl⟩
  obtain ⟨visible, toggles⟩ :=
    (mirrors_run start coherent begins operations).parts (coherent_run start coherent operations)
  refine ⟨visible, toggles, ?_, ?_⟩
  · rw [Lifecycle.isUsable, revealed_iff_ran fresh]
    simp only [Lifecycle.State.isReady_iff]
  · intro terminal later
    obtain ⟨visible, toggles⟩ := (mirrors_run start coherent begins (operations ++ later)).parts
      (coherent_run start coherent (operations ++ later))
    rw [run_append, lifecycle_of_terminal _ terminal later] at visible toggles
    rw [Lifecycle.State.not_waiting_of_terminal terminal] at visible toggles
    exact ⟨visible, toggles⟩

/-- A module that crashes after it ran keeps canvas and output visible, and its spinner is not
hidden again. -/
theorem visibility_mirrors_life_crash :
    let start : Recording := ⟨{ config := {}, transcript := {} }, .standard⟩
    let operations : List Operation :=
      [.signal (.life (.dependencies 0)), .signal (.life .crash)]
    (start.run operations).session.lifecycle.state.isTerminal = true ∧
      ((start.run operations).run [.signal (.life .load)]).display.visible = ⟨false, true, true⟩ ∧
      ((start.run operations).run [.signal (.life .load)]).display.toggles = ⟨1, 1, 1⟩ :=
  ⟨rfl, (visibility_mirrors_life {} {} ⟨800, 600⟩ ⟨1920, 1080⟩ _).2.2.2 rfl _⟩

end Recording

end Embed
