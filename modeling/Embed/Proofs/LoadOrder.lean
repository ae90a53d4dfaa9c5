import Embed.Proofs.Lifecycle
/-!
# When the load is complete does not matter

That a load is complete makes a module run, whatever else is known of it, and the status line says
so from then on. What else is heard of a load, that it begins, how far it has come and how many
dependencies are outstanding, shows only until then. So it makes no difference when, among such
events, the load is complete, nor how often it is said to be: the signal can be exchanged with each
of them, and a second one changes nothing.
-/

namespace Embed

namespace Lifecycle

variable {life next : Lifecycle} {event : Event} {t : Transition}

/-- A module that runs takes no notice of how its load went on, but for a count. -/
theorem step_of_ready (ready : life.state = .ready) (harmless : Session.failureOf event = none)
    (other : event ≠ .load) : life.step event = (life.counted event, {}) := by
  obtain ⟨state, revealed, spinnerHidden, dependencies, lastError⟩ := life
  obtain rfl : state = .ready := ready
  cases event with
  | loadStart | progress | dependencies => rfl
  | load => contradiction
  | error | crash => contradiction

/-- That the load is complete overrides what was shown of it before: it leads to the life and the
page to which it leads from before the move, but for a count. -/
theorem Move.overridden (move : Move life event next t) (alive : life.state.isTerminal = false)
    (harmless : Session.failureOf event = none) (display : Display) :
    next.running = (life.counted event).running ∧
      (display.applyAll t.effects).applyAll (next.revelation "Running").effects =
        display.applyAll (life.revelation "Running").effects := by
  cases move with
  | late terminal => simp [alive] at terminal
  | idle => exact ⟨rfl, rfl⟩
  | loads waiting percent changed status progress =>
    have shown : life.revelation "Running" =
        { changed := true, status := some "Running", progress := some completePercent,
          reveal := !life.revealed } := by
      simp [revelation, waiting]
    have again : ({ life.counted event with state := .loading percent } : Lifecycle).revelation
        "Running" = life.revelation "Running" := shown.symm
    refine ⟨rfl, ?_⟩
    rw [again, shown]
    cases progress <;> cases life.revealed <;> rfl
  | runs _ status =>
    have again : (life.counted event).running.revelation "Running" =
        { status := some "Running" } := rfl
    refine ⟨rfl, ?_⟩
    rw [again]
    simp only [revelation]
    cases life.state.isWaiting <;> cases life.revealed <;> rfl
  | fails _ reports =>
    rw [harmless] at reports
    contradiction

end Lifecycle

namespace Recording

/-- A recording after an event in the life of its module. -/
def undergo (r : Recording) (event : Lifecycle.Event) : Recording :=
  (r.step (.signal (.life event))).1

/-- A recording after events in the life of its module. -/
def undergoAll (r : Recording) (events : List Lifecycle.Event) : Recording :=
  r.run (events.map fun event => .signal (.life event))

/-- The first event comes first. -/
@[simp]
theorem undergoAll_cons (r : Recording) (event : Lifecycle.Event) (events : List Lifecycle.Event) :
    r.undergoAll (event :: events) = (r.undergo event).undergoAll events := rfl

/-- Events one after the other are events. -/
theorem undergoAll_append (r : Recording) (first second : List Lifecycle.Event) :
    r.undergoAll (first ++ second) = (r.undergoAll first).undergoAll second := by
  unfold undergoAll
  rw [List.map_append, run_append]

/-- What an event makes of a recording. -/
theorem undergo_eq (r : Recording) (event : Lifecycle.Event) :
    r.undergo event =
      ⟨{ r.session with lifecycle := (r.session.lifecycle.step event).1 },
        r.display.applyAll (r.session.lifecycle.step event).2.effects⟩ := rfl

/-- Nothing becomes of a recording whose module has failed. -/
theorem undergo_of_terminal (r : Recording)
    (terminal : r.session.lifecycle.state.isTerminal = true) (event : Lifecycle.Event) :
    r.undergo event = r := by
  rw [undergo_eq, Lifecycle.step_of_terminal terminal]
  rfl

/-- What a complete load makes of a recording whose module has not failed. -/
theorem undergo_load (r : Recording) (alive : r.session.lifecycle.state.isTerminal = false) :
    r.undergo .load =
      ⟨{ r.session with lifecycle := r.session.lifecycle.running },
        r.display.applyAll (r.session.lifecycle.revelation "Running").effects⟩ := by
  rw [undergo_eq, Lifecycle.step, Lifecycle.becomeReady_of_alive _ alive]

/-- After an event that reports no failure, a complete load makes of a recording what it made of it
before the event, but for a count. -/
theorem undergo_then_load (r : Recording) (alive : r.session.lifecycle.state.isTerminal = false)
    {event : Lifecycle.Event} (harmless : Session.failureOf event = none) :
    (r.undergo event).undergo .load =
      ⟨{ r.session with lifecycle := (r.session.lifecycle.counted event).running },
        r.display.applyAll (r.session.lifecycle.revelation "Running").effects⟩ := by
  have move := r.session.lifecycle.step_moves event
  obtain ⟨lives, shows⟩ := move.overridden alive harmless r.display
  have still : (r.undergo event).session.lifecycle.state.isTerminal = false :=
    move.alive alive harmless
  rw [undergo_load _ still, undergo_eq]
  simp only [lives, shows]

/-- To be told twice that the load is complete is to be told once. -/
theorem undergo_load_load (r : Recording) :
    (r.undergo .load).undergo .load = r.undergo .load := by
  cases alive : r.session.lifecycle.state.isTerminal with
  | true => rw [undergo_of_terminal r alive, undergo_of_terminal r alive]
  | false =>
    rw [undergo_then_load r alive rfl, undergo_load r alive]
    rfl

/-- That the load is complete can be exchanged with any event that reports no failure. -/
theorem undergo_load_comm (r : Recording) {event : Lifecycle.Event}
    (harmless : Session.failureOf event = none) :
    (r.undergo .load).undergo event = (r.undergo event).undergo .load := by
  by_cases same : event = .load
  · rw [same]
  · cases alive : r.session.lifecycle.state.isTerminal with
    | true =>
      rw [undergo_of_terminal r alive, undergo_of_terminal r alive, undergo_of_terminal r alive]
    | false =>
      rw [undergo_then_load r alive harmless, undergo_load r alive, undergo_eq,
        Lifecycle.step_of_ready rfl harmless same]
      rfl

/-- That the load is complete can as well be heard after events that report no failure. -/
theorem undergoAll_load (r : Recording) {events : List Lifecycle.Event}
    (harmless : ∀ event ∈ events, Session.failureOf event = none) :
    (r.undergo .load).undergoAll events = (r.undergoAll events).undergo .load := by
  induction events generalizing r with
  | nil => rfl
  | cons event later ih =>
    rw [undergoAll_cons, undergoAll_cons, undergo_load_comm r (harmless event List.mem_cons_self)]
    exact ih (r.undergo event) fun other member => harmless other (List.mem_cons_of_mem _ member)

/-- Where the load is complete among events that report no failure, it may as well be last. -/
theorem undergoAll_insertIdx (r : Recording) {events : List Lifecycle.Event}
    (harmless : ∀ event ∈ events, Session.failureOf event = none) {i : Nat}
    (inside : i ≤ events.length) :
    r.undergoAll (events.insertIdx i .load) = (r.undergoAll events).undergo .load := by
  induction i generalizing r events with
  | zero => exact undergoAll_load r harmless
  | succ i ih =>
    cases events with
    | nil => contradiction
    | cons event later =>
      rw [List.insertIdx_succ_cons, undergoAll_cons, undergoAll_cons]
      have others : ∀ other ∈ later, Session.failureOf other = none := fun other member =>
        harmless other (List.mem_cons_of_mem _ member)
      exact ih (r.undergo event) others (Nat.le_of_succ_le_succ inside)

/-- Before the load is complete, it makes no difference that it was said to be. -/
theorem undergoAll_interleaved (r : Recording) {count : Nat} {events more : List Lifecycle.Event}
    (harmless : ∀ event ∈ events, Session.failureOf event = none)
    (mixed : Interleaving (List.replicate count .load) events more) :
    (r.undergoAll more).undergo .load = (r.undergoAll events).undergo .load := by
  generalize loads : List.replicate count Lifecycle.Event.load = signals at mixed
  induction mixed generalizing r count with
  | nil => rfl
  | left signal _ ih =>
    cases count with
    | zero => contradiction
    | succ count =>
      obtain ⟨rfl, rest⟩ := List.cons.inj loads
      rw [undergoAll_cons, ih (r.undergo .load) harmless rest, undergoAll_load r harmless,
        undergo_load_load]
  | right event _ ih =>
    rw [undergoAll_cons, undergoAll_cons]
    exact ih (r.undergo event) (fun other member => harmless other (List.mem_cons_of_mem _ member))
      loads

/-- Once the load is complete, to be told so again changes nothing. -/
theorem undergo_load_of_mem (r : Recording) {events : List Lifecycle.Event}
    (harmless : ∀ event ∈ events, Session.failureOf event = none)
    (complete : Lifecycle.Event.load ∈ events) :
    (r.undergoAll events).undergo .load = r.undergoAll events := by
  obtain ⟨before, after, rfl⟩ := List.append_of_mem complete
  have later : ∀ event ∈ after, Session.failureOf event = none := fun event member =>
    harmless event (List.mem_append_right before (List.mem_cons_of_mem _ member))
  rw [undergoAll_append, undergoAll_cons, undergoAll_load _ later, undergo_load_load]

/-- Wherever among events that report no failure the load is complete, and however often it is said
to be so besides, the recording that comes of it is the same. -/
theorem load_signal_anywhere (r : Recording) {events : List Lifecycle.Event}
    (harmless : ∀ event ∈ events, Session.failureOf event = none) {i j : Nat}
    (first : i ≤ events.length) (second : j ≤ events.length) :
    r.undergoAll (events.insertIdx i .load) = r.undergoAll (events.insertIdx j .load) ∧
      ∀ count more, Interleaving (List.replicate count .load) (events.insertIdx i .load) more →
        r.undergoAll more = r.undergoAll (events.insertIdx i .load) := by
  refine ⟨?_, fun count more mixed => ?_⟩
  · rw [undergoAll_insertIdx r harmless first, undergoAll_insertIdx r harmless second]
  · have complete : Lifecycle.Event.load ∈ events.insertIdx i .load := by
      simp [List.mem_insertIdx first]
    have padded : ∀ event ∈ events.insertIdx i .load, Session.failureOf event = none := by
      intro event member
      rcases (List.mem_insertIdx first).mp member with rfl | member
      · rfl
      · exact harmless event member
    have more_harmless : ∀ event ∈ more, Session.failureOf event = none := by
      intro event member
      rcases mixed.mem_iff.mp member with signal | member
      · rw [List.eq_of_mem_replicate signal]
        rfl
      · exact padded event member
    rw [← undergo_load_of_mem r more_harmless (mixed.mem_iff.mpr (Or.inr complete)),
      undergoAll_interleaved r padded mixed, undergo_load_of_mem r padded complete]

/-- The dependencies of a load are resolved, twice, before it is complete or after it, or between
two signals that it is. -/
theorem load_signal_anywhere_dependencies :
    let start := Recording.new {} .standard
    let events : List Lifecycle.Event :=
      [.loadStart, .dependencies 2, .progress (.bytes 1.0 2.0), .dependencies 0, .dependencies 0]
    start.undergoAll (events.insertIdx 5 .load) = start.undergoAll (events.insertIdx 0 .load) ∧
      start.undergoAll (.load :: events.insertIdx 5 .load) =
        start.undergoAll (events.insertIdx 5 .load) := by
  intro start events
  have harmless : ∀ event ∈ events, Session.failureOf event = none := by
    simp [events, Session.failureOf]
  obtain ⟨same, further⟩ :=
    load_signal_anywhere start harmless (Nat.le_refl events.length) (Nat.zero_le events.length)
  exact ⟨same, further 1 _ (.left _ (.nil_left _))⟩

end Recording

end Embed
