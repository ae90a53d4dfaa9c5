import Embed.Proofs.Lifecycle
import Mathlib.Order.Defs.PartialOrder
/-!
# A life only goes forward

A module is unloaded, loads, runs and fails, in this order, and may leave out what comes in between.
So there are only so many changes in a life, and each is told once: a run is looked at as the list
of its steps, a step that changes the state uses up one of the changes that are left, and a step
that lets the spinner go uses up the one time that it can. What a step shows of itself is exact: it
says that the state changed where it did, and where it shows nothing, nothing changed but a count.
-/

namespace Embed.Lifecycle

/-- The kinds of states that a module can be in. -/
inductive Kind where
  /-- Nothing has happened yet. -/
  | unloaded
  /-- It is loading. -/
  | loading
  /-- It runs. -/
  | ready
  /-- It could not be loaded. -/
  | errored
  /-- It stopped unexpectedly. -/
  | crashed
  deriving DecidableEq

/-- The kind of a state, without what the state carries. -/
def State.kind : State → Kind
  | .unloaded => .unloaded
  | .loading _ => .loading
  | .ready => .ready
  | .errored _ => .errored
  | .crashed => .crashed

/-- How far a life has come. Both failures end it. -/
def Kind.stage : Kind → Nat
  | .unloaded => 0
  | .loading => 1
  | .ready => 2
  | .errored | .crashed => 3

/-- The order in which a life goes through the kinds. Of the two failures neither follows the
other. -/
instance : PartialOrder Kind where
  le first second := first = second ∨ first.stage < second.stage
  le_refl kind := Or.inl rfl
  le_trans first second third := by
    rintro (rfl | earlier) (rfl | later)
    · exact Or.inl rfl
    · exact Or.inr later
    · exact Or.inr earlier
    · exact Or.inr (Nat.lt_trans earlier later)
  le_antisymm first second := by
    rintro (rfl | earlier) (same | later)
    · rfl
    · rfl
    · exact same.symm
    · exact absurd later (Nat.lt_asymm earlier)

/-- A kind comes before another one if it is the same or an earlier one. -/
theorem Kind.le_iff {first second : Kind} :
    first ≤ second ↔ first = second ∨ first.stage < second.stage :=
  Iff.rfl

/-- What comes later is at a later stage. -/
theorem Kind.stage_lt {first second : Kind} (before : first ≤ second) (apart : first ≠ second) :
    first.stage < second.stage :=
  (Kind.le_iff.mp before).resolve_left apart

/-- What comes later or is the same is at no earlier stage. -/
theorem Kind.stage_le {first second : Kind} (before : first ≤ second) :
    first.stage ≤ second.stage := by
  rcases Kind.le_iff.mp before with rfl | earlier
  · exact Nat.le_refl _
  · exact Nat.le_of_lt earlier

/-- A life has no more than three changes ahead of it. -/
theorem Kind.stage_le_three (kind : Kind) : kind.stage ≤ 3 := by
  cases kind <;> decide

namespace State

variable {state : State}

/-- A module that is waited for loads at the latest. -/
theorem kind_le_loading (waiting : state.isWaiting = true) : state.kind ≤ .loading := by
  cases state with
  | unloaded => exact Or.inr Nat.zero_lt_one
  | loading => exact le_refl Kind.loading
  | ready | errored | crashed => contradiction

/-- A module that has not failed runs at the latest. -/
theorem kind_le_ready (alive : state.isTerminal = false) : state.kind ≤ .ready := by
  cases state with
  | unloaded => exact Or.inr Nat.zero_lt_two
  | loading => exact Or.inr Nat.one_lt_two
  | ready => exact le_refl Kind.ready
  | errored | crashed => contradiction

/-- A module that has failed is at the end of its life. -/
theorem stage_of_terminal (terminal : state.isTerminal = true) : state.kind.stage = 3 := by
  cases state with
  | errored | crashed => rfl
  | unloaded | loading | ready => contradiction

end State

/-- A step of a run. -/
structure Passage where
  /-- The life before it. -/
  before : Lifecycle
  /-- What the page has to show of it. -/
  transition : Transition
  /-- The life after it. -/
  after : Lifecycle

/-- The step that an event makes. -/
def passage (life : Lifecycle) (event : Event) : Passage :=
  ⟨life, (life.step event).2, (life.step event).1⟩

/-- The steps that events make, one after the other. -/
def passages (life : Lifecycle) : List Event → List Passage
  | [] => []
  | event :: later => life.passage event :: (life.step event).1.passages later

namespace Passage

/-- The state went from one kind to another. -/
def Changes (p : Passage) : Prop :=
  p.before.state.kind ≠ p.after.state.kind

/-- The module starts to run. -/
def Starts (p : Passage) : Prop :=
  p.before.state.kind ≠ .ready ∧ p.after.state.kind = .ready

/-- The spinner goes, with or without the reveal of what it stood for. -/
def clears (p : Passage) : Bool :=
  p.transition.reveal || p.transition.hideSpinner

/-- Whether the kind of the state changed can be decided. -/
instance (p : Passage) : Decidable p.Changes :=
  inferInstanceAs (Decidable (_ ≠ _))

/-- Whether the module starts to run can be decided. -/
instance (p : Passage) : Decidable p.Starts :=
  inferInstanceAs (Decidable (_ ∧ _))

end Passage

variable {life next : Lifecycle} {event : Event} {t : Transition}

/-- A move leads to a kind of state that is the same or comes later. -/
theorem Move.kind_le (move : Move life event next t) : life.state.kind ≤ next.state.kind := by
  cases move with
  | late | idle => exact le_refl _
  | loads waiting => exact State.kind_le_loading waiting
  | runs alive => exact State.kind_le_ready alive
  | fails alive _ failed terminal =>
    have early := Kind.stage_le (State.kind_le_ready alive)
    have last : failed.kind.stage = 3 := State.stage_of_terminal terminal
    exact Or.inr (last ▸ Nat.lt_succ_of_le early)

/-- A step is said to change the state exactly if its kind changed. -/
theorem changed_passage (life : Lifecycle) (event : Event) :
    (life.passage event).transition.changed = decide (life.passage event).Changes := by
  obtain ⟨state, revealed, spinnerHidden, dependencies, lastError⟩ := life
  cases event with
  | loadStart | progress | load | error | crash => cases state <;> rfl
  | dependencies remaining =>
    -- A count of dependencies goes by whether any is left, and not by the state alone.
    cases state with
    | unloaded | loading =>
      simp only [passage, step, outstanding]
      split <;> rfl
    | ready | errored | crashed => rfl

/-- What is shown of a move has a status line, unless nothing is shown. -/
theorem Move.status (move : Move life event next t) (shown : t ≠ {}) : t.status.isSome = true := by
  cases move with
  | late | idle => contradiction
  | loads | runs | fails => rfl

/-- A move of which nothing is shown leaves everything alone but a count. -/
theorem Move.untouched (move : Move life event next t) (silent : t = {}) :
    next.state = life.state ∧ next.isUsable = life.isUsable ∧ next.lastError = life.lastError := by
  cases move with
  | late | idle => exact ⟨rfl, rfl, rfl⟩
  | loads | runs | fails =>
    have unsaid := congrArg Transition.status silent
    contradiction

/-- A move does not both reveal what the spinner stood for and let the spinner go alone. -/
theorem Move.exclusive (move : Move life event next t) :
    ¬ (t.reveal = true ∧ t.hideSpinner = true) := by
  rintro ⟨reveals, hides⟩
  cases move <;> contradiction

/-- A move that lets the spinner go finds it there and leaves it gone. Every other one leaves it as
it was, and none brings it back. -/
theorem Move.spinner (move : Move life event next t) (coherent : life.Coherent) :
    (!next.spinnerHidden).toNat + (t.reveal || t.hideSpinner).toNat ≤
      (!life.spinnerHidden).toNat := by
  cases move with
  | late | idle | loads => exact Nat.le_refl _
  | runs alive =>
    have hidden := coherent.hidden_of_alive alive
    cases revealed : life.revealed <;> simp [running, revelation, hidden, revealed]
  | fails => cases hidden : life.spinnerHidden <;> simp

/-- Where each step uses up what it counts, a run counts no more than there was. -/
theorem countP_passages {test : Passage → Bool} (left : Lifecycle → Nat)
    (spends : ∀ life event, life.Coherent →
      left (life.step event).1 + (test (life.passage event)).toNat ≤ left life)
    (coherent : life.Coherent) (events : List Event) :
    (life.passages events).countP test ≤ left life := by
  induction events generalizing life with
  | nil => exact Nat.zero_le _
  | cons event later ih =>
    have spent := spends life event coherent
    have rest := ih ((life.step_moves event).coherent coherent)
    rw [passages, List.countP_cons]
    cases counted : test (life.passage event) with
    | true =>
      rw [counted, Bool.toNat_true] at spent
      simp only [if_true]
      omega
    | false =>
      rw [counted, Bool.toNat_false] at spent
      simp only [Bool.false_eq_true, if_false]
      omega

/-- Every step of a run is the step of some event. -/
theorem exists_of_mem_passages {p : Passage} {events : List Event}
    (member : p ∈ life.passages events) : ∃ event, p = p.before.passage event := by
  induction events generalizing life with
  | nil => contradiction
  | cons event later ih =>
    rcases List.mem_cons.mp member with rfl | member
    · exact ⟨event, rfl⟩
    · exact ih member

/-- Every step of a run is a move. -/
theorem move_of_mem_passages {p : Passage} {events : List Event}
    (member : p ∈ life.passages events) : ∃ event, Move p.before event p.after p.transition := by
  obtain ⟨event, made⟩ := exists_of_mem_passages member
  rw [made]
  exact ⟨event, p.before.step_moves event⟩

/-- A run changes the kind of the state at most as often as there are stages left. -/
theorem countP_changed (coherent : life.Coherent) (events : List Event) :
    (life.passages events).countP (·.transition.changed) ≤ 3 - life.state.kind.stage := by
  refine countP_passages (3 - ·.state.kind.stage) (fun life event _ => ?_) coherent events
  have forward := (life.step_moves event).kind_le
  have bounded := (life.step event).1.state.kind.stage_le_three
  rw [changed_passage]
  by_cases changes : (life.passage event).Changes
  · have later := Kind.stage_lt forward changes
    simp only [changes, decide_true, Bool.toNat_true]
    omega
  · have later := Kind.stage_le forward
    simp only [changes, decide_false, Bool.toNat_false]
    omega

/-- A run lets a module start to run at most once, and only if it is still waited for. -/
theorem countP_starts (coherent : life.Coherent) (events : List Event) :
    (life.passages events).countP (fun p => decide p.Starts) ≤
      if life.state.kind.stage < 2 then 1 else 0 := by
  refine countP_passages (fun life => if life.state.kind.stage < 2 then 1 else 0)
    (fun life event _ => ?_) coherent events
  have forward := (life.step_moves event).kind_le
  by_cases starts : (life.passage event).Starts
  · have later := Kind.stage_lt forward (starts.2.symm ▸ starts.1)
    have now : (life.step event).1.state.kind.stage = 2 := congrArg Kind.stage starts.2
    rw [now] at later
    simp [starts, now, later]
  · have later := Kind.stage_le forward
    simp only [starts, decide_false, Bool.toNat_false, Nat.add_zero]
    split <;> split <;> omega

/-- A run lets the spinner go at most once, and only if it is still there. -/
theorem countP_clears (coherent : life.Coherent) (events : List Event) :
    (life.passages events).countP (·.clears) ≤ (!life.spinnerHidden).toNat :=
  countP_passages (fun life => (!life.spinnerHidden).toNat)
    (fun life event coherent => (life.step_moves event).spinner coherent) coherent events

/-- In every run of a fresh life no step leads back to an earlier kind of state. A step is said to
change the state exactly if its kind changed, which happens at most three times, and the module
starts to run at most once. At most one step lets the spinner go, either by revealing what it stood
for or alone. A step of which anything is shown has a status line, and one of which nothing is shown
leaves the state, the usability and the last error as they were. -/
theorem life_only_moves_forward (events : List Event) :
    let run := passages {} events
    (∀ p ∈ run, p.before.state.kind ≤ p.after.state.kind) ∧
    (∀ p ∈ run, p.transition.changed = true ↔ p.before.state.kind ≠ p.after.state.kind) ∧
    run.countP (·.transition.changed) ≤ 3 ∧
    run.countP (fun p => p.before.state.kind ≠ .ready ∧ p.after.state.kind = .ready) ≤ 1 ∧
    run.countP (fun p => p.transition.reveal || p.transition.hideSpinner) ≤ 1 ∧
    (∀ p ∈ run, ¬ (p.transition.reveal = true ∧ p.transition.hideSpinner = true)) ∧
    (∀ p ∈ run, p.transition ≠ {} → p.transition.status.isSome = true) ∧
    (∀ p ∈ run, p.transition = {} →
      p.after.state = p.before.state ∧ p.after.isUsable = p.before.isUsable ∧
        p.after.lastError = p.before.lastError) := by
  intro run
  refine ⟨?_, ?_, ?_, ?_, ?_, ?_, ?_, ?_⟩
  · intro p member
    obtain ⟨event, move⟩ := move_of_mem_passages member
    exact move.kind_le
  · intro p member
    obtain ⟨event, made⟩ := exists_of_mem_passages member
    rw [made, changed_passage, decide_eq_true_eq]
    rfl
  · exact countP_changed coherent_new events
  · exact countP_starts coherent_new events
  · exact countP_clears coherent_new events
  · intro p member
    obtain ⟨event, move⟩ := move_of_mem_passages member
    exact move.exclusive
  · intro p member
    obtain ⟨event, move⟩ := move_of_mem_passages member
    exact move.status
  · intro p member
    obtain ⟨event, move⟩ := move_of_mem_passages member
    exact move.untouched

/-- A life that goes through all stages: the state changes three times, and a count of dependencies
that comes when the module runs is a step of which nothing is shown. -/
theorem life_only_moves_forward_all_stages :
    let run := passages {} [.loadStart, .load, .dependencies 2, .crash]
    let begun := passage {} .loadStart
    let ready : Lifecycle := { state := .ready, revealed := true, spinnerHidden := true }
    let counts := ready.passage (.dependencies 2)
    run.countP (·.transition.changed) = 3 ∧
      run.countP (fun p => p.transition.reveal || p.transition.hideSpinner) = 1 ∧
      begun ∈ run ∧ begun.transition ≠ {} ∧ begun.transition.status.isSome = true ∧
      counts ∈ run ∧ counts.transition = {} ∧ counts.after.state = counts.before.state ∧
      counts.after.dependencies ≠ counts.before.dependencies := by
  intro run begun ready counts
  obtain ⟨-, -, -, -, -, -, spoken, silent⟩ :=
    life_only_moves_forward [.loadStart, .load, .dependencies 2, .crash]
  have first : begun ∈ run := List.mem_cons_self
  have shown : begun.transition ≠ {} := fun same => by
    have unsaid := congrArg Transition.status same
    contradiction
  have third : counts ∈ run := List.mem_of_mem_drop (i := 2) List.mem_cons_self
  exact ⟨rfl, rfl, first, shown, spoken begun first shown, third, rfl,
    (silent counts third rfl).1, by decide⟩

end Embed.Lifecycle
