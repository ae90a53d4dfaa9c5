import Embed.Proofs.Recording
/-!
# The life of a module, and everything else

A recording has two halves. One is the life of the module and what the page shows of it: the status
line, the progress bar, and which parts are visible. The other is everything else: the viewport and
the canvas, the counters, the output, the window and what the platform refuses. Every operation
belongs to one half. It reads and changes that half alone, and its reply depends on that half alone.
Hence the order of operations matters only within a half.

The two halves are told apart by `withLifeOf`, which puts the one half of a recording beside the
other half of another: an operation on recordings put together so is the operation on the recording
that its half comes from.
-/

namespace Embed

/-- Whether an effect shows something of the module's life. -/
def Effect.isLife : Effect → Bool
  | .visible _ _ | .status _ | .progress _ => true
  | .output _ _ | .canvas _ => false

/-- Whether a signal is about the module's life. -/
def Signal.isLife : Signal → Bool
  | .life _ | .status _ => true
  | _ => false

/-- Whether an operation is about the module's life. -/
def Recording.Operation.isLife : Operation → Bool
  | .signal told => told.isLife
  | _ => false

/-- What is about the module's life is an event in it or a status line. -/
theorem Recording.Operation.eq_of_isLife {operation : Operation}
    (life : operation.isLife = true) :
    (∃ event, operation = .signal (.life event)) ∨ ∃ text, operation = .signal (.status text) := by
  cases operation with
  | signal told =>
    cases told with
    | life event => exact Or.inl ⟨event, rfl⟩
    | status text => exact Or.inr ⟨text, rfl⟩
    | payload | dispatch | print | fullscreenChange | enterSoft | leaveSoft | windowResize =>
      contradiction
  | requestFullscreen | setWindow | setRefusal => contradiction

namespace Display

/-- A page that shows the life of a module as another one does. -/
def withLifeOf (display source : Display) : Display :=
  { display with
    status := source.status
    progress := source.progress
    visible := source.visible
    toggles := source.toggles }

/-- What is shown of a life is recorded in that half. -/
theorem apply_withLifeOf_of_life (display source : Display) {effect : Effect}
    (life : effect.isLife = true) :
    (display.withLifeOf source).apply effect = display.withLifeOf (source.apply effect) := by
  cases effect with
  | visible | status | progress => rfl
  | output | canvas => contradiction

/-- What else is shown is recorded in the other half. -/
theorem apply_withLifeOf_of_rest (display source : Display) {effect : Effect}
    (rest : effect.isLife = false) :
    (display.withLifeOf source).apply effect = (display.apply effect).withLifeOf source := by
  cases effect with
  | output | canvas => rfl
  | visible | status | progress => contradiction

/-- All that is shown of a life is recorded in that half. -/
theorem applyAll_withLifeOf_of_life (display source : Display) {effects : List Effect}
    (life : ∀ effect ∈ effects, effect.isLife = true) :
    (display.withLifeOf source).applyAll effects =
      display.withLifeOf (source.applyAll effects) := by
  induction effects generalizing source with
  | nil => rfl
  | cons effect effects ih =>
    have first := apply_withLifeOf_of_life display source (life effect List.mem_cons_self)
    rw [applyAll_cons, applyAll_cons, first]
    exact ih (source.apply effect) fun later member => life later (List.mem_cons_of_mem _ member)

/-- All else that is shown is recorded in the other half. -/
theorem applyAll_withLifeOf_of_rest (display source : Display) {effects : List Effect}
    (rest : ∀ effect ∈ effects, effect.isLife = false) :
    (display.withLifeOf source).applyAll effects =
      (display.applyAll effects).withLifeOf source := by
  induction effects generalizing display with
  | nil => rfl
  | cons effect effects ih =>
    have first := apply_withLifeOf_of_rest display source (rest effect List.mem_cons_self)
    rw [applyAll_cons, applyAll_cons, first]
    exact ih (display.apply effect) fun later member => rest later (List.mem_cons_of_mem _ member)

end Display

/-- What the page shows of a transition is the module's life. -/
theorem Lifecycle.Transition.effects_isLife (t : Lifecycle.Transition) :
    ∀ effect ∈ t.effects, effect.isLife = true := by
  obtain ⟨changed, status, progress, reveal, hideSpinner⟩ := t
  cases status <;> cases progress <;> cases reveal <;> cases hideSpinner <;>
    simp [Lifecycle.Transition.effects, Effect.isLife]

namespace Session

/-- A session with the life of another one's module. -/
def withLifeOf (s source : Session) : Session :=
  { s with lifecycle := source.lifecycle }

/-- The life is that of the other session's module. -/
@[simp]
theorem lifecycle_withLifeOf (s source : Session) :
    (s.withLifeOf source).lifecycle = source.lifecycle := rfl

/-- The configuration stays. -/
@[simp]
theorem config_withLifeOf (s source : Session) : (s.withLifeOf source).config = s.config := rfl

/-- The viewport stays. -/
@[simp]
theorem viewport_withLifeOf (s source : Session) :
    (s.withLifeOf source).viewport = s.viewport := rfl

/-- An answer with its session changed. -/
def Answer.mapSession (answer : Answer) (f : Session → Session) : Answer :=
  { answer with session := f answer.session }

/-- Nothing that a message makes the page show is about the module's life. -/
theorem dispatch_isLife (s : Session) (message : Message) :
    ∀ effect ∈ (s.dispatch message).effects, effect.isLife = false := by
  cases message <;> simp [dispatch, append, Message.outputText, Message.canvasSize, Effect.isLife]

/-- The page shows of a signal what the signal is about. -/
theorem effects_isLife (s : Session) (geometry : Geometry) (signal : Signal) :
    ∀ effect ∈ (s.receiveSignal geometry signal).effects, effect.isLife = signal.isLife := by
  cases signal with
  | life event => exact Lifecycle.Transition.effects_isLife (s.lifecycle.step event).2
  | status text =>
    simp only [receiveSignal, runtimeStatus, Signal.isLife]
    split
    · simp
    · split
      · split <;> simp [Effect.isLife]
      · cases (s.lifecycle.progress _).2.progress <;> split <;> simp [Effect.isLife]
  | payload text =>
    simp only [receiveSignal, receive, Signal.isLife]
    cases decode s.config.transport text with
    | ok message => exact dispatch_isLife s message
    | error error => simp [append, Effect.isLife]
  | dispatch message => exact dispatch_isLife s message
  | print line => simp [receiveSignal, append, Effect.isLife, Signal.isLife]
  | fullscreenChange | enterSoft | leaveSoft =>
    simp [receiveSignal, present, Effect.isLife, Signal.isLife]
  | windowResize =>
    simp only [receiveSignal, windowResized, Signal.isLife]
    split
    · split
      · split <;> simp [Effect.isLife]
      · simp
    · simp

/-- A signal about the module's life depends on that life alone, and changes nothing else. -/
theorem receiveSignal_withLifeOf_of_life (s source : Session) (here there : Geometry)
    {signal : Signal} (life : signal.isLife = true) :
    (s.withLifeOf source).receiveSignal here signal =
      (source.receiveSignal there signal).mapSession s.withLifeOf := by
  cases signal with
  | life event => rfl
  | status text =>
    cases terminal : source.lifecycle.state.isTerminal with
    | true =>
      simp only [receiveSignal, runtimeStatus, lifecycle_withLifeOf, terminal]
      rfl
    | false =>
      simp only [receiveSignal, runtimeStatus, lifecycle_withLifeOf, terminal]
      cases statusSample? text <;> rfl
  | payload | dispatch | print | fullscreenChange | enterSoft | leaveSoft | windowResize =>
    contradiction

/-- Any other signal does not depend on the module's life, and leaves it alone. -/
theorem receiveSignal_withLifeOf_of_rest (s source : Session) (geometry : Geometry)
    {signal : Signal} (rest : signal.isLife = false) :
    (s.withLifeOf source).receiveSignal geometry signal =
      (s.receiveSignal geometry signal).mapSession (·.withLifeOf source) := by
  cases signal with
  | payload text =>
    simp only [receiveSignal, receive, config_withLifeOf]
    cases decode s.config.transport text with
    | ok message => cases message <;> rfl
    | error error => rfl
  | dispatch message => cases message <;> rfl
  | print | fullscreenChange | enterSoft | leaveSoft => rfl
  | windowResize =>
    cases tracked : s.config.trackWindowSize with
    | true =>
      simp only [receiveSignal, windowResized, config_withLifeOf, viewport_withLifeOf, tracked]
      cases s.viewport.windowResized geometry.window <;> rfl
    | false =>
      simp only [receiveSignal, windowResized, config_withLifeOf, tracked]
      rfl
  | life | status => contradiction

end Session

/-- The third list is made of the first two, each in its own order. -/
inductive Interleaving {α : Type} : List α → List α → List α → Prop
  /-- Nothing is made of nothing. -/
  | nil : Interleaving [] [] []
  /-- The first list goes first. -/
  | left (x : α) {xs ys zs : List α} : Interleaving xs ys zs → Interleaving (x :: xs) ys (x :: zs)
  /-- The second list goes first. -/
  | right (y : α) {xs ys zs : List α} : Interleaving xs ys zs → Interleaving xs (y :: ys) (y :: zs)

/-- A list is made of itself and nothing else. -/
theorem Interleaving.nil_left {α : Type} (ys : List α) : Interleaving [] ys ys := by
  induction ys with
  | nil => exact .nil
  | cons y _ ih => exact .right y ih

/-- An interleaving has the members of both lists. -/
theorem Interleaving.mem_iff {α : Type} {xs ys zs : List α} (mixed : Interleaving xs ys zs)
    {z : α} : z ∈ zs ↔ z ∈ xs ∨ z ∈ ys := by
  induction mixed with
  | nil => simp
  | left x _ ih => simp [ih, or_assoc]
  | right y _ ih => simp [ih, or_left_comm]

/-- Where a test tells two lists apart, it takes an interleaving of them apart again. -/
theorem Interleaving.filter_eq {α : Type} {test : α → Bool} {xs ys zs : List α}
    (mixed : Interleaving xs ys zs) (passes : ∀ x ∈ xs, test x = true)
    (fails : ∀ y ∈ ys, test y = false) :
    zs.filter test = xs ∧ zs.filter (fun z => !test z) = ys := by
  induction mixed with
  | nil => exact ⟨rfl, rfl⟩
  | left x _ ih =>
    obtain ⟨first, second⟩ :=
      ih (fun other member => passes other (List.mem_cons_of_mem _ member)) fails
    have passed : test x = true := passes x List.mem_cons_self
    simp [passed, first, second]
  | right y _ ih =>
    obtain ⟨first, second⟩ :=
      ih passes fun other member => fails other (List.mem_cons_of_mem _ member)
    have failed : test y = false := fails y List.mem_cons_self
    simp [failed, first, second]

namespace Recording

/-- A recording with the life of another one's module, and with what its page shows of it. -/
def withLifeOf (r source : Recording) : Recording :=
  ⟨r.session.withLifeOf source.session, r.display.withLifeOf source.display⟩

/-- A recording has the life of its own module. -/
@[simp]
theorem withLifeOf_self (r : Recording) : r.withLifeOf r = r := rfl

/-- An operation about the module's life does what it does in the recording that the life is of. -/
theorem step_withLifeOf_of_life (r source : Recording) {operation : Operation}
    (life : operation.isLife = true) :
    (r.withLifeOf source).step operation =
      (r.withLifeOf (source.step operation).1, (source.step operation).2) := by
  cases operation with
  | signal told =>
    have answers : (r.withLifeOf source).session.receiveSignal
        (r.withLifeOf source).display.geometry told = _ :=
      Session.receiveSignal_withLifeOf_of_life r.session source.session r.display.geometry
        source.display.geometry life
    have shown : (r.withLifeOf source).display.applyAll
        (source.session.receiveSignal source.display.geometry told).effects = _ :=
      Display.applyAll_withLifeOf_of_life r.display source.display fun effect member =>
        (source.session.effects_isLife source.display.geometry told effect member).trans life
    simp only [step, tell, answers, Session.Answer.mapSession, shown]
    rfl
  | requestFullscreen | setWindow | setRefusal => contradiction

/-- Any other operation does what it does in the recording that the life is not of. -/
theorem step_withLifeOf_of_rest (r source : Recording) {operation : Operation}
    (rest : operation.isLife = false) :
    (r.withLifeOf source).step operation =
      ((r.step operation).1.withLifeOf source, (r.step operation).2) := by
  cases operation with
  | signal told =>
    have answers : (r.withLifeOf source).session.receiveSignal
        (r.withLifeOf source).display.geometry told = _ :=
      Session.receiveSignal_withLifeOf_of_rest r.session source.session r.display.geometry rest
    have shown : (r.withLifeOf source).display.applyAll
        (r.session.receiveSignal r.display.geometry told).effects = _ :=
      Display.applyAll_withLifeOf_of_rest r.display source.display fun effect member =>
        (r.session.effects_isLife r.display.geometry told effect member).trans rest
    simp only [step, tell, answers, Session.Answer.mapSession, shown]
    rfl
  | requestFullscreen =>
    cases refusal : r.display.refusal with
    | none | some =>
      have same : (r.withLifeOf source).display.refusal = _ := refusal
      simp only [step, requestFullscreen, refusal, same]
      rfl
  | setWindow | setRefusal => rfl

/-- An operation about the module's life leaves everything else alone. -/
theorem step_of_life (r : Recording) {operation : Operation} (life : operation.isLife = true) :
    (r.step operation).1 = r.withLifeOf (r.step operation).1 :=
  congrArg Prod.fst (step_withLifeOf_of_life r r life)

/-- Any other operation leaves the module's life alone. -/
theorem step_of_rest (r : Recording) {operation : Operation} (rest : operation.isLife = false) :
    (r.step operation).1 = (r.step operation).1.withLifeOf r :=
  congrArg Prod.fst (step_withLifeOf_of_rest r r rest)

/-- In a run, the operations about the module's life do what they do alone, and so do the others. -/
theorem run_withLifeOf (r source : Recording) (operations : List Operation) :
    (r.withLifeOf source).run operations =
      (r.run (operations.filter (!·.isLife))).withLifeOf
        (source.run (operations.filter (·.isLife))) := by
  induction operations generalizing r source with
  | nil => rfl
  | cons operation later ih =>
    cases life : operation.isLife with
    | true =>
      rw [run_cons, step_withLifeOf_of_life r source life, ih]
      simp [life]
    | false =>
      rw [run_cons, step_withLifeOf_of_rest r source life, ih]
      simp [life]

/-- What is learned from an operation: its reply and, where it is about the module's life, the state
that the module is in afterwards. -/
def outcome (r : Recording) (operation : Operation) : Reply × Option Lifecycle.State :=
  ((r.step operation).2,
    if operation.isLife then some (r.step operation).1.session.lifecycle.state else none)

/-- Operations one after the other, each with what is learned from it. -/
def outcomes (r : Recording) :
    List Operation → List (Operation × Reply × Option Lifecycle.State)
  | [] => []
  | operation :: later => (operation, r.outcome operation) :: (r.step operation).1.outcomes later

/-- What is learned of the module's life depends on that life alone. -/
theorem outcome_withLifeOf_of_life (r source : Recording) {operation : Operation}
    (life : operation.isLife = true) :
    (r.withLifeOf source).outcome operation = source.outcome operation := by
  unfold outcome
  rw [step_withLifeOf_of_life r source life]
  rfl

/-- What is learned from any other operation does not depend on the module's life. -/
theorem outcome_withLifeOf_of_rest (r source : Recording) {operation : Operation}
    (rest : operation.isLife = false) :
    (r.withLifeOf source).outcome operation = r.outcome operation := by
  unfold outcome
  rw [step_withLifeOf_of_rest r source rest, rest]
  rfl

/-- In a run, what is learned from the operations about the module's life is learned from them
alone, and the same holds of the others. -/
theorem outcomes_withLifeOf (r source : Recording) (operations : List Operation) :
    ((r.withLifeOf source).outcomes operations).filter (·.1.isLife) =
        source.outcomes (operations.filter (·.isLife)) ∧
      ((r.withLifeOf source).outcomes operations).filter (!·.1.isLife) =
        r.outcomes (operations.filter (!·.isLife)) := by
  induction operations generalizing r source with
  | nil => exact ⟨rfl, rfl⟩
  | cons operation later ih =>
    cases life : operation.isLife with
    | true =>
      obtain ⟨lives, others⟩ := ih r (source.step operation).1
      rw [outcomes, outcome_withLifeOf_of_life r source life, step_withLifeOf_of_life r source life]
      simp [life, lives, others, outcomes]
    | false =>
      obtain ⟨lives, others⟩ := ih (r.step operation).1 source
      rw [outcomes, outcome_withLifeOf_of_rest r source life, step_withLifeOf_of_rest r source life]
      simp [life, lives, others, outcomes]

/-- However operations about the module's life are interleaved with others, they lead to one
recording, and every operation has one outcome. -/
theorem interleavings_agree (r : Recording) {lives others first second : List Operation}
    (life : ∀ operation ∈ lives, operation.isLife = true)
    (rest : ∀ operation ∈ others, operation.isLife = false)
    (one : Interleaving lives others first) (other : Interleaving lives others second) :
    r.run first = r.run second ∧
      (r.outcomes first).filter (·.1.isLife) = (r.outcomes second).filter (·.1.isLife) ∧
      (r.outcomes first).filter (!·.1.isLife) = (r.outcomes second).filter (!·.1.isLife) := by
  have sorted : ∀ mixed, Interleaving lives others mixed →
      r.run mixed = (r.run others).withLifeOf (r.run lives) ∧
        (r.outcomes mixed).filter (·.1.isLife) = r.outcomes lives ∧
        (r.outcomes mixed).filter (!·.1.isLife) = r.outcomes others := by
    intro mixed made
    obtain ⟨left, right⟩ := made.filter_eq life rest
    have runs := run_withLifeOf r r mixed
    have learned := outcomes_withLifeOf r r mixed
    rw [withLifeOf_self, left, right] at runs learned
    exact ⟨runs, learned⟩
  obtain ⟨runs, lives, others⟩ := sorted first one
  obtain ⟨runs', lives', others'⟩ := sorted second other
  exact ⟨runs.trans runs'.symm, lives.trans lives'.symm, others.trans others'.symm⟩

/-- A module that runs and crashes while its canvas fills the window and is given a size. -/
theorem interleavings_agree_crash :
    (Recording.new {} .standard).run
        [.signal (.life .load), .signal (.life .crash), .signal .enterSoft,
          .signal (.dispatch (.resize ⟨640, 480⟩))] =
      (Recording.new {} .standard).run
        [.signal .enterSoft, .signal (.life .load), .signal (.dispatch (.resize ⟨640, 480⟩)),
          .signal (.life .crash)] :=
  (interleavings_agree (.new {} .standard) (by decide) (by decide)
    (.left _ (.left _ (.right _ (.right _ .nil))))
    (.right _ (.left _ (.right _ (.left _ .nil))))).1

end Recording

end Embed
