import Embed.Proofs.Lifecycle
import Mathlib.Data.List.Induction
import Mathlib.Data.List.TakeWhile
/-!
# What counts of dependencies add up to

A runtime names a number of outstanding dependencies at a time, up and down as it likes, before the
module runs and after. Until the module fails each number is kept, and nothing else is: what is
outstanding is the last number named, and the total is the largest. So nothing more is outstanding
than there is in total, and the status line can tell how many are done.
-/

namespace Embed

/-- The larger of two words is the larger of two numbers. -/
theorem toNat_max (a b : UInt32) : (max a b).toNat = max a.toNat b.toNat := by
  change (if a ≤ b then b else a).toNat = _
  split <;> rename_i order <;> rw [UInt32.le_iff_toNat_le] at order <;> omega

namespace Dependencies

/-- These are the dependencies after the given numbers were named, in this order. -/
structure Counts (deps : Dependencies) (ticks : List Nat) : Prop where
  /-- The last number is outstanding. -/
  remaining : deps.remaining.toNat = ticks.getLastD 0
  /-- The largest number is the total. -/
  total : deps.total.toNat = ticks.max?.getD 0

variable {deps : Dependencies} {ticks : List Nat}

/-- Another number is the last one, and the largest if it is larger than all before it. -/
theorem Counts.update (counts : deps.Counts ticks) (remaining : UInt32) :
    (deps.update remaining).Counts (ticks ++ [remaining.toNat]) where
  remaining := List.getLastD_concat.symm
  total := by
    have total := counts.total
    change (max deps.total remaining).toNat = _
    rw [toNat_max, total]
    cases ticks with
    | nil => simp
    | cons first others =>
      rw [List.cons_append, List.max?_cons', List.max?_cons', List.foldl_append]
      rfl

/-- What is outstanding is part of the total. -/
theorem Counts.remaining_le (counts : deps.Counts ticks) : deps.remaining ≤ deps.total := by
  rw [UInt32.le_iff_toNat_le, counts.remaining, counts.total]
  cases ticks with
  | nil => exact Nat.le_refl 0
  | cons first others =>
    rw [List.getLastD_cons]
    exact List.le_max?_getD_of_mem List.getLastD_mem_cons

/-- The total takes in every number that is named. -/
theorem total_le_heed (deps : Dependencies) (event : Lifecycle.Event) :
    deps.total ≤ (deps.heed event).total := by
  cases event with
  | dependencies remaining =>
    change deps.total ≤ max deps.total remaining
    rw [UInt32.le_iff_toNat_le, toNat_max]
    exact Nat.le_max_left _ _
  | loadStart | progress | load | error | crash => exact UInt32.le_refl _

/-- The difference in a status line is the difference of the numbers. -/
theorem toNat_done (part : deps.remaining ≤ deps.total) :
    (deps.total - deps.remaining).toNat = deps.total.toNat - deps.remaining.toNat :=
  UInt32.toNat_sub_of_le _ _ part

/-- While something is outstanding the status line tells what is done out of the total, and that is
not all. -/
theorem status_of_outstanding (part : deps.remaining ≤ deps.total) (left : deps.remaining ≠ 0) :
    let total := deps.total.toNat
    let done := total - deps.remaining.toNat
    deps.status = "Preparing... (" ++ toString done ++ "/" ++ toString total ++ ")" ∧
      done < total := by
  intro total done
  have positive : deps.remaining.toNat ≠ 0 := fun zero => left (UInt32.toNat_inj.mp zero)
  have bounded := UInt32.le_iff_toNat_le.mp part
  refine ⟨?_, by omega⟩
  unfold status
  rw [if_neg left, toNat_done part]
  rfl

end Dependencies

namespace Lifecycle

/-- The number of outstanding dependencies that an event names. -/
def Event.tick? : Event → Option Nat
  | .dependencies remaining => some remaining.toNat
  | _ => none

/-- Whether an event reports a failure of the module. -/
def Event.isFailure (event : Event) : Bool :=
  (Session.failureOf event).isSome

/-- The numbers of outstanding dependencies that were named before the first failure. -/
def ticks (events : List Event) : List Nat :=
  (events.takeWhile fun event => !event.isFailure).filterMap Event.tick?

/-- The life after events, one after the other. -/
def run (life : Lifecycle) (events : List Event) : Lifecycle :=
  events.foldl (fun life event => (life.step event).1) life

/-- The last event of a run is the last step. -/
theorem run_concat (life : Lifecycle) (past : List Event) (last : Event) :
    life.run (past ++ [last]) = ((life.run past).step last).1 := by
  simp [run]

/-- A run goes on where another one ends. -/
theorem run_append (life : Lifecycle) (past later : List Event) :
    life.run (past ++ later) = (life.run past).run later :=
  List.foldl_append

variable {life : Lifecycle}

/-- A module has failed if it had, or if the event reports that it did. -/
theorem terminal_step (life : Lifecycle) (event : Event) :
    (life.step event).1.state.isTerminal = (life.state.isTerminal || event.isFailure) := by
  cases terminal : life.state.isTerminal with
  | true =>
    rw [step_of_terminal terminal, terminal]
    rfl
  | false =>
    cases event with
    | error | crash =>
      rw [step, fail, if_neg (by simp [terminal])]
      rfl
    | loadStart | progress | load | dependencies =>
      rw [(life.step_moves _).alive terminal rfl]
      rfl

/-- A fresh module has failed exactly if some event reported that it did. -/
theorem terminal_run (events : List Event) :
    (run {} events).state.isTerminal = events.any Event.isFailure := by
  induction events using List.reverseRecOn with
  | nil => rfl
  | append_singleton past last ih =>
    rw [run_concat, terminal_step, ih, List.any_append]
    simp

/-- Until the module fails, every number that is named is kept, and nothing else is. -/
theorem dependencies_step (alive : life.state.isTerminal = false) (event : Event) :
    (life.step event).1.dependencies = life.dependencies.heed event := by
  have move := life.step_moves event
  generalize (life.step event).1 = next, (life.step event).2 = shown at move ⊢
  cases move with
  | late terminal => simp [alive] at terminal
  | idle | loads | runs => rfl
  | fails _ reports =>
    -- What reports a failure names no number.
    cases event with
    | error | crash => rfl
    | loadStart | progress | load | dependencies => contradiction

/-- After a failure no number counts. -/
theorem ticks_concat_of_failed {past : List Event} (failed : past.any Event.isFailure = true)
    (last : Event) : ticks (past ++ [last]) = ticks past := by
  obtain ⟨event, member, fails⟩ := List.any_eq_true.mp failed
  have stopped : ¬ (past.takeWhile fun event => !event.isFailure).length = past.length := by
    intro whole
    have same := (List.takeWhile_prefix fun event : Event => !event.isFailure).eq_of_length whole
    have harmless := List.takeWhile_eq_self_iff.mp same event member
    simp [fails] at harmless
  unfold ticks
  rw [List.takeWhile_append, if_neg stopped]

/-- Until then the last event's number counts, if it names one. -/
theorem ticks_concat_of_alive {past : List Event} (alive : past.any Event.isFailure = false)
    (last : Event) : ticks (past ++ [last]) = ticks past ++ last.tick?.toList := by
  have harmless : ∀ event ∈ past, (!event.isFailure) = true := by
    simpa using alive
  have whole := List.takeWhile_eq_self_iff.mpr harmless
  unfold ticks
  rw [List.takeWhile_append_of_pos harmless, whole, List.filterMap_append]
  cases last <;> rfl

/-- The dependencies of a module are what the numbers named before its failure add up to. -/
theorem counts_run (events : List Event) : (run {} events).dependencies.Counts (ticks events) := by
  induction events using List.reverseRecOn with
  | nil => exact ⟨rfl, rfl⟩
  | append_singleton past last ih =>
    rw [run_concat]
    cases failed : past.any Event.isFailure with
    | true =>
      rw [step_of_terminal ((terminal_run past).trans failed), ticks_concat_of_failed failed]
      exact ih
    | false =>
      rw [dependencies_step ((terminal_run past).trans failed), ticks_concat_of_alive failed]
      cases last with
      | dependencies remaining => exact ih.update remaining
      | loadStart | progress | load | error | crash =>
        change Dependencies.Counts _ (ticks past ++ [])
        rw [List.append_nil]
        exact ih

/-- The total never falls in a run. -/
theorem total_le_run (life : Lifecycle) (events : List Event) :
    life.dependencies.total ≤ (life.run events).dependencies.total := by
  induction events generalizing life with
  | nil => exact UInt32.le_refl _
  | cons event later ih =>
    refine UInt32.le_trans ?_ (ih (life.step event).1)
    cases alive : life.state.isTerminal with
    | true =>
      rw [step_of_terminal alive]
      exact UInt32.le_refl _
    | false =>
      rw [dependencies_step alive]
      exact life.dependencies.total_le_heed event

/-- Of a number of outstanding dependencies the page is told while the module is waited for, and
only then. -/
theorem status_outstanding (life : Lifecycle) (remaining : UInt32) :
    (life.outstanding remaining).2.status =
      if life.state.isWaiting then some (life.dependencies.update remaining).status else none := by
  obtain ⟨state, revealed, spinnerHidden, dependencies, lastError⟩ := life
  cases state with
  | unloaded | loading =>
    simp only [outstanding]
    split <;> rfl
  | ready | errored | crashed => rfl

/-- What is known of the dependencies of a module is what its runtime named before the first failure,
also once the module runs: the last number is outstanding and the largest is the total. So nothing
more is outstanding than the total, their difference is one of numbers, and the total never falls.
Each further number makes a status line while the module has not failed, which is shown while the
module is waited for: what is done out of the largest number so far, and that is not all of it, or
that all is done if the number is zero. -/
theorem dependencies_follow_ticks (events : List Event) :
    let life := run {} events
    let deps := life.dependencies
    deps.remaining.toNat = (ticks events).getLastD 0 ∧
    deps.total.toNat = (ticks events).max?.getD 0 ∧
    deps.remaining ≤ deps.total ∧
    (deps.total - deps.remaining).toNat = deps.total.toNat - deps.remaining.toNat ∧
    (∀ later, deps.total ≤ (run {} (events ++ later)).dependencies.total) ∧
    ∀ remaining,
      let next := (life.step (.dependencies remaining)).1
      let shown := (life.step (.dependencies remaining)).2
      let line := next.dependencies.status
      let total := (ticks (events ++ [.dependencies remaining])).max?.getD 0
      let done := total - remaining.toNat
      shown.status = (if life.state.isWaiting then some line else none) ∧
      (life.state.isTerminal = false →
        (remaining = 0 → line = "All downloads complete.") ∧
        (remaining ≠ 0 →
          line = "Preparing... (" ++ toString done ++ "/" ++ toString total ++ ")" ∧
            done < total)) := by
  intro life deps
  have counts := counts_run events
  have part := counts.remaining_le
  refine ⟨counts.remaining, counts.total, part, Dependencies.toNat_done part, ?_, ?_⟩
  · intro later
    rw [run_append]
    exact total_le_run life later
  intro remaining next shown line total done
  have shows : shown.status = if life.state.isWaiting then
      some (deps.update remaining).status else none := status_outstanding life remaining
  have told := counts_run (events ++ [.dependencies remaining])
  rw [run_concat] at told
  refine ⟨?_, fun alive => ?_⟩
  · rw [shows]
    cases waiting : life.state.isWaiting with
    | false => rfl
    | true =>
      have kept := dependencies_step (State.alive_of_waiting waiting) (.dependencies remaining)
      exact congrArg (fun deps => some deps.status) kept.symm
  · have kept : next.dependencies = deps.update remaining :=
      dependencies_step alive (.dependencies remaining)
    have last : next.dependencies.remaining = remaining := congrArg Dependencies.remaining kept
    have most : next.dependencies.total.toNat = total := told.total
    refine ⟨fun zero => if_pos (last.trans zero), fun left => ?_⟩
    have made := Dependencies.status_of_outstanding told.remaining_le (last.symm ▸ left)
    rw [most, last] at made
    exact made

/-- Of five numbers the one after the failure does not count, and the one that comes when the module
runs is not shown. -/
theorem dependencies_follow_ticks_late :
    let past : List Event := [.dependencies 4, .dependencies 1]
    let events := past ++ [.dependencies 0, .load, .dependencies 6, .crash, .dependencies 9]
    ticks events = [4, 1, 0, 6] ∧
      (run {} events).dependencies.remaining.toNat = 6 ∧
      (run {} events).dependencies.total.toNat = 6 ∧
      (run {} past).state.isTerminal = false ∧
      ((run {} past).step (.dependencies 2)).2.status = some "Preparing... (2/4)" ∧
      ((run {} past).step (.dependencies 0)).2.status = some "All downloads complete." := by
  intro past events
  obtain ⟨remaining, total, -⟩ := dependencies_follow_ticks events
  obtain ⟨-, -, -, -, -, further⟩ := dependencies_follow_ticks past
  obtain ⟨shown, lines⟩ := further 2
  obtain ⟨finished, all⟩ := further 0
  have two : ((run {} past).step (.dependencies 2)).1.dependencies.status = "Preparing... (2/4)" :=
    ((lines rfl).2 (by decide)).1.trans (by decide)
  have zero := (all rfl).1 rfl
  refine ⟨rfl, remaining, total, rfl, ?_, ?_⟩
  · exact shown.trans (congrArg some two)
  · exact finished.trans (congrArg some zero)

end Lifecycle

end Embed
