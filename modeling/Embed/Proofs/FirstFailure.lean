import Embed.Proofs.Lifecycle
/-!
# The first failure counts

A module fails once. The operation that reports its first failure is told so, and whatever follows,
the life of the module stays as it is, and so does all that the page shows of it. The rest of the
session does not notice: canvas, viewport, counters and output are what they would be if the module
had not failed.
-/

namespace Embed.Recording

/-- An operation reports a failure of the module. If it is the first one, the sender is told of the
failure and the module is left in the state. -/
inductive Operation.Fails : Operation → Failure → Lifecycle.State → Prop
  /-- The load failed. -/
  | error (message : String) :
    Fails (.signal (.life (.error message))) (.load message) (.errored message)
  /-- The module stopped unexpectedly. -/
  | crash : Fails (.signal (.life .crash)) .crash .crashed

/-- An operation reports some failure of the module. -/
def Operation.Fatal (operation : Operation) : Prop :=
  ∃ failure state, operation.Fails failure state

variable {operation : Operation} {failure : Failure} {state : Lifecycle.State}

/-- A failure leaves the module in a state that is never left. -/
theorem Operation.Fails.terminal (fails : operation.Fails failure state) :
    state.isTerminal = true := by
  cases fails <;> rfl

/-- What reports a failure is about the module's life. -/
theorem Operation.Fails.isLife (fails : operation.Fails failure state) :
    operation.isLife = true := by
  cases fails <;> rfl

/-- What reports no failure is no event that does. -/
theorem Operation.failureOf_of_not_fatal (harmless : ¬ operation.Fatal) {event : Lifecycle.Event}
    (is : operation.event? = some event) : Session.failureOf event = none := by
  cases life : operation.isLife with
  | false =>
    rw [Operation.event?_of_rest life] at is
    contradiction
  | true =>
    rcases Operation.eq_of_isLife life with ⟨event', rfl⟩ | ⟨text, rfl⟩
    · obtain rfl : event' = event := Option.some.inj is
      cases event' with
      | error message => exact absurd ⟨_, _, .error message⟩ harmless
      | crash => exact absurd ⟨_, _, .crash⟩ harmless
      | loadStart | progress | load | dependencies => rfl
    · obtain ⟨sample, -, rfl⟩ := Option.map_eq_some_iff.mp is
      rfl

variable {r : Recording}

/-- A module does not fail by an operation that reports no failure. -/
theorem alive_step (alive : r.session.lifecycle.state.isTerminal = false)
    (harmless : ¬ operation.Fatal) :
    (r.step operation).1.session.lifecycle.state.isTerminal = false := by
  rw [step_lifecycle]
  cases is : operation.event? with
  | none => exact alive
  | some event =>
    exact (r.session.lifecycle.step_moves event).alive alive
      (Operation.failureOf_of_not_fatal harmless is)

/-- A module does not fail in a run that reports no failure. -/
theorem alive_run (alive : r.session.lifecycle.state.isTerminal = false)
    {operations : List Operation} (harmless : ∀ operation ∈ operations, ¬ operation.Fatal) :
    (r.run operations).session.lifecycle.state.isTerminal = false := by
  induction operations generalizing r with
  | nil => exact alive
  | cons first later ih =>
    apply ih (alive_step alive (harmless first List.mem_cons_self))
    exact fun operation member => harmless operation (List.mem_cons_of_mem first member)

/-- The first failure is told to its sender, and is the state of the module then. -/
theorem step_of_fails (alive : r.session.lifecycle.state.isTerminal = false)
    (fails : operation.Fails failure state) :
    (r.step operation).2 = .failed failure ∧
      (r.step operation).1.session.lifecycle.state = state := by
  cases fails with
  | error | crash =>
    simp [step, tell, Session.receiveSignal, Session.live, Lifecycle.step, Lifecycle.fail, alive,
      Session.failureOf]

/-- An operation about the life of a module that has failed does nothing, and its sender learns
nothing. -/
theorem step_of_terminal (terminal : r.session.lifecycle.state.isTerminal = true)
    (life : operation.isLife = true) : r.step operation = (r, .done) := by
  rcases Operation.eq_of_isLife life with ⟨event, rfl⟩ | ⟨text, rfl⟩
  · simp only [step, tell, Session.receiveSignal, Session.live, Lifecycle.step_of_terminal terminal]
    cases Session.failureOf event <;> rfl
  · simp only [step, tell, Session.receiveSignal, Session.runtimeStatus, terminal, ↓reduceIte]
    rfl

/-- Operations about the life of a module that has failed do nothing. -/
theorem run_of_terminal (terminal : r.session.lifecycle.state.isTerminal = true)
    {operations : List Operation} (life : ∀ operation ∈ operations, operation.isLife = true) :
    r.run operations = r := by
  induction operations with
  | nil => rfl
  | cons first later ih =>
    rw [run_cons, step_of_terminal terminal (life first List.mem_cons_self)]
    exact ih fun operation member => life operation (List.mem_cons_of_mem first member)

/-- A module has failed in a run that reports a failure. -/
theorem terminal_run (r : Recording) {operations : List Operation}
    (fatal : ∃ operation ∈ operations, operation.Fatal) :
    (r.run operations).session.lifecycle.state.isTerminal = true := by
  obtain ⟨operation, member, failure, state, fails⟩ := fatal
  obtain ⟨earlier, later, rfl⟩ := List.append_of_mem member
  have failed : ((r.run earlier).step operation).1.session.lifecycle.state.isTerminal = true := by
    cases before : (r.run earlier).session.lifecycle.state.isTerminal with
    | true => rw [step_of_terminal before fails.isLife, before]
    | false => rw [(step_of_fails before fails).2, fails.terminal]
  rw [run_append, run_cons, lifecycle_of_terminal _ failed, failed]

/-- After a failure a run leaves the module's life as it is, and everything else is what it would be
without the failure. -/
theorem run_of_failed (life : operation.isLife = true)
    (failed : (r.step operation).1.session.lifecycle.state.isTerminal = true)
    (later : List Operation) :
    (r.step operation).1.run later = (r.run later).withLifeOf (r.step operation).1 := by
  have frozen : (r.step operation).1.run (later.filter (·.isLife)) = (r.step operation).1 :=
    run_of_terminal failed fun _ member => (List.mem_filter.mp member).2
  calc (r.step operation).1.run later
      = (r.withLifeOf (r.step operation).1).run later := by rw [← step_of_life r life]
    _ = (r.run (later.filter (!·.isLife))).withLifeOf (r.step operation).1 := by
        rw [run_withLifeOf, frozen]
    _ = (r.run later).withLifeOf (r.step operation).1 := by
        rw [← withLifeOf_self r, run_withLifeOf r r later]
        rfl

/-- Of all operations that report a failure only the first is told so. With it the module takes the
state of that failure, and whatever follows, its life stays as it is and so does what the page shows
of it, while everything else is as it would be without the failure. At all times the last error is
the message of a failed load. -/
theorem first_failure_counts (config : Config) (transcript : Scrollback) (display : Display)
    (operations : List Operation) :
    let start : Recording := ⟨{ config, transcript }, display⟩
    let before := start.run operations
    (∀ last failure state, last.Fails failure state →
      let after := (before.step last).1
      ((∃ earlier ∈ operations, earlier.Fatal) → (before.step last).2 = .done) ∧
      ((∀ earlier ∈ operations, ¬ earlier.Fatal) →
        (before.step last).2 = .failed failure ∧ after.session.lifecycle.state = state ∧
        ∀ later, after.run later = (before.run later).withLifeOf after ∧
          ∀ other, other.isLife = false →
            ((after.run later).step other).2 = ((before.run later).step other).2)) ∧
    ∀ message, before.session.lifecycle.lastError = some message ↔
      before.session.lifecycle.state = .errored message := by
  intro start before
  refine ⟨fun last failure state fails => ⟨fun fatal => ?_, fun harmless => ?_⟩, fun message => ?_⟩
  · have terminal := terminal_run start fatal
    rw [step_of_terminal terminal fails.isLife]
  · have alive : before.session.lifecycle.state.isTerminal = false := alive_run rfl harmless
    obtain ⟨told, failed⟩ := step_of_fails alive fails
    have terminal : (before.step last).1.session.lifecycle.state.isTerminal = true := by
      rw [failed, fails.terminal]
    refine ⟨told, failed, fun later => ?_⟩
    have frozen := run_of_failed fails.isLife terminal later
    refine ⟨frozen, fun other rest => ?_⟩
    rw [frozen, step_withLifeOf_of_rest _ _ rest]
  · have coherent := coherent_run start Lifecycle.coherent_new operations
    rw [coherent.error, Lifecycle.State.message?_eq_some_iff]

/-- A load fails after the module ran. A crash after that is not told, a late status line is not
shown, and a printed line still is. -/
theorem first_failure_counts_after_load :
    let start : Recording := ⟨{ config := {}, transcript := {} }, .standard⟩
    let before := start.run [.signal (.life .load)]
    let after := (before.step (.signal (.life (.error "gone")))).1
    let later : List Operation := [.signal (.status "late"), .signal (.print "still here")]
    (before.step (.signal (.life (.error "gone")))).2 = .failed (.load "gone") ∧
      (after.step (.signal (.life .crash))).2 = .done ∧
      after.run later = (before.run later).withLifeOf after := by
  intro start before after later
  have harmless : ∀ earlier ∈ [Operation.signal (.life .load)], ¬ earlier.Fatal := by
    intro earlier member
    obtain rfl := List.mem_singleton.mp member
    rintro ⟨failure, state, fails⟩
    cases fails
  obtain ⟨told, -, frozen⟩ := ((first_failure_counts {} {} .standard
    [.signal (.life .load)]).1 _ _ _ (.error "gone")).2 harmless
  have silent := ((first_failure_counts {} {} .standard
    [.signal (.life .load), .signal (.life (.error "gone"))]).1 _ _ _ .crash).1
      ⟨_, List.mem_cons_of_mem _ List.mem_cons_self, _, _, .error "gone"⟩
  exact ⟨told, silent, (frozen later).1⟩

end Embed.Recording
