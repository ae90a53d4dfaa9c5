import Embed.Proofs.Lifecycle
import Mathlib.Data.List.Induction
/-!
# The progress bar agrees with the module's life

A percentage reaches the bar in two ways, with a transition of the module's life and with a status
line of its runtime, and either way it is the one that the module's state stands for. The one time
nothing is written although the module begins to load is when a count of outstanding dependencies
makes it begin, and then the bar stays unset until the first percentage is told. Whatever is
observed of a load, what it amounts to is a number from 0 to 100.
-/

namespace Embed

/-- A double is a percentage. -/
structure IsPercentage (x : Float) : Prop where
  /-- It is a number. -/
  number : x.isNaN = false
  /-- It is not below 0. -/
  nonnegative : ¬ x < 0.0
  /-- It is not above 100. -/
  bounded : ¬ 100.0 < x

/-- A load that has just begun has a percentage. -/
theorem isPercentage_zero : IsPercentage 0.0 :=
  ⟨by decide, by decide, by decide⟩

/-- A load that is complete has a percentage. -/
theorem isPercentage_complete : IsPercentage completePercent :=
  ⟨by decide, by decide, by decide⟩

/-- A number brought between 0 and 100 is a percentage. -/
theorem isPercentage_clampPercent {x : Float} (number : x.isNaN = false) :
    IsPercentage (clampPercent x) := by
  unfold clampPercent
  by_cases below : x < 0.0
  · rw [if_pos below]
    exact isPercentage_zero
  · rw [if_neg below]
    by_cases above : 100.0 < x
    · rw [if_pos above]
      exact isPercentage_complete
    · rw [if_neg above]
      exact ⟨number, below, above⟩

/-- Every observation of a load amounts to a percentage. -/
theorem Sample.isPercentage_percent (sample : Sample) : IsPercentage sample.percent := by
  obtain ⟨loaded, total, dependencies⟩ := sample
  cases loaded with
  | none => exact isPercentage_complete
  | some loaded =>
    cases total with
    | none => exact isPercentage_complete
    | some total =>
      simp only [percent]
      by_cases positive : 0.0 < total
      · rw [if_pos positive]
        cases number : (100.0 * loaded / total).isNaN with
        | true => exact isPercentage_complete
        | false => exact isPercentage_clampPercent number
      · rw [if_neg positive]
        exact isPercentage_complete

namespace Lifecycle

/-- What an event can do to the state of a module, and the percentage that is written then. -/
inductive Advance (event : Event) : State → State → Option Float → Prop
  /-- The state stays. A module that is waited for heard of no progress then. -/
  | stays {state : State}
      (unheard : state.isWaiting = true → ∀ sample, event ≠ .progress sample) :
      Advance event state state none
  /-- The percentage of the next state is written. -/
  | writes {state next : State} {percent : Float} (stands : next.percent? = some percent)
      (valid : IsPercentage percent) : Advance event state next (some percent)
  /-- A load begins because dependencies are outstanding. -/
  | ticks {remaining : UInt32} (counts : event = .dependencies remaining)
      (outstanding : remaining ≠ 0) : Advance event .unloaded (.loading 0.0) none
  /-- The module fails. -/
  | fails {state next : State} (terminal : next.isTerminal = true) : Advance event state next none

/-- Every event does one of these. -/
theorem step_advances (life : Lifecycle) (event : Event) :
    Advance event life.state (life.step event).1.state (life.step event).2.progress := by
  obtain ⟨state, revealed, spinnerHidden, dependencies, lastError⟩ := life
  have sampled (sample : Sample) := sample.isPercentage_percent
  cases event with
  | loadStart =>
    cases state with
    | unloaded => exact .writes rfl isPercentage_zero
    | loading | ready | errored | crashed => exact .stays fun _ _ => by simp
  | progress sample =>
    cases state with
    | unloaded | loading => exact .writes rfl (sampled sample)
    | ready | errored | crashed => exact .stays fun waiting => by contradiction
  | load =>
    cases state with
    | unloaded | loading => exact .writes rfl isPercentage_complete
    | ready | errored | crashed => exact .stays fun _ _ => by simp
  | dependencies remaining =>
    cases state with
    | unloaded =>
      simp only [step, outstanding]
      split
      · exact .writes rfl isPercentage_complete
      · exact .ticks rfl ‹_›
    | loading percent =>
      simp only [step, outstanding]
      split
      · exact .writes rfl isPercentage_complete
      · exact .stays fun _ _ => by simp
    | ready | errored | crashed => exact .stays fun _ _ => by simp
  | error | crash =>
    cases state with
    | unloaded | loading | ready => exact .fails rfl
    | errored | crashed => exact .stays fun _ _ => by simp

variable {event : Event} {state next : State}

/-- What is written is a percentage. -/
theorem Advance.valid {percent : Float} (advance : Advance event state next (some percent)) :
    IsPercentage percent := by
  cases advance with
  | writes _ valid => exact valid

/-- Nothing is written of a module that has failed. -/
theorem Advance.unwritten {written : Option Float} (advance : Advance event state next written)
    (terminal : next.isTerminal = true) : written = none := by
  cases advance with
  | stays | ticks | fails => rfl
  | writes stands =>
    cases next <;> contradiction

/-- The percentage that is written for what may have been an event. -/
def written (life : Lifecycle) (event : Option Event) : Option Float :=
  event.bind fun event => (life.step event).2.progress

end Lifecycle

/-- The percentage that an effect writes. -/
def Effect.percent? : Effect → Option Float
  | .progress percent => some percent
  | _ => none

/-- The bar of a recorded page stands where the last written percentage puts it. -/
theorem Display.applyAll_progress (display : Display) (effects : List Effect) :
    (display.applyAll effects).progress =
      (effects.filterMap Effect.percent?).getLast?.or display.progress := by
  induction effects generalizing display with
  | nil => rfl
  | cons effect effects ih =>
    rw [applyAll_cons, ih]
    cases effect with
    | progress percent =>
      change _ = (percent :: effects.filterMap Effect.percent?).getLast?.or display.progress
      rw [List.getLast?_cons]
      cases (effects.filterMap Effect.percent?).getLast? <;> rfl
    | output | visible | canvas | status => rfl

/-- A transition writes its own percentage. -/
theorem Lifecycle.Transition.percent?_effects (t : Lifecycle.Transition) :
    t.effects.filterMap Effect.percent? = t.progress.toList := by
  obtain ⟨changed, status, progress, reveal, hideSpinner⟩ := t
  cases status <;> cases progress <;> cases reveal <;> cases hideSpinner <;> rfl

namespace Session

/-- A status line writes what the progress in it writes. -/
theorem percent?_runtimeStatus (s : Session) (text : String) :
    (s.runtimeStatus text).effects.filterMap Effect.percent? =
      (s.lifecycle.written ((statusSample? text).map .progress)).toList := by
  unfold runtimeStatus
  cases terminal : s.lifecycle.state.isTerminal with
  | true =>
    cases statusSample? text with
    | none => rfl
    | some sample => simp [Lifecycle.written, Lifecycle.step_of_terminal terminal]
  | false =>
    cases statusSample? text with
    | none => cases text.isEmpty <;> rfl
    | some sample =>
      simp only [Lifecycle.written, Option.map_some, Option.bind_some, Lifecycle.step]
      cases (s.lifecycle.progress sample).2.progress <;> cases text.isEmpty <;> rfl

open Recording (Operation)

/-- A signal writes what the event that it is writes, and nothing if it is none. -/
theorem percent?_receiveSignal (s : Session) (geometry : Geometry) (signal : Signal) :
    (s.receiveSignal geometry signal).effects.filterMap Effect.percent? =
      (s.lifecycle.written (Operation.signal signal).event?).toList := by
  cases life : (Operation.signal signal).isLife with
  | false =>
    rw [Operation.event?_of_rest life]
    apply List.filterMap_eq_nil_iff.mpr
    intro effect member
    have rest : effect.isLife = false :=
      (s.effects_isLife geometry signal effect member).trans life
    cases effect with
    | output | canvas => rfl
    | visible | status | progress => contradiction
  | true =>
    rcases Operation.eq_of_isLife life with ⟨event, same⟩ | ⟨text, same⟩
    · obtain rfl : signal = .life event := Operation.signal.inj same
      exact (s.lifecycle.step event).2.percent?_effects
    · obtain rfl : signal = .status text := Operation.signal.inj same
      exact s.percent?_runtimeStatus text

/-- Whatever a signal writes is a percentage. -/
theorem isPercentage_of_mem (s : Session) (geometry : Geometry) (signal : Signal) {percent : Float}
    (member : .progress percent ∈ (s.receiveSignal geometry signal).effects) :
    IsPercentage percent := by
  have writes : percent ∈ (s.receiveSignal geometry signal).effects.filterMap Effect.percent? :=
    List.mem_filterMap.mpr ⟨_, member, rfl⟩
  rw [percent?_receiveSignal, Option.mem_toList] at writes
  obtain ⟨event, -, writes⟩ := Option.bind_eq_some_iff.mp writes
  have advance := s.lifecycle.step_advances event
  rw [writes] at advance
  exact advance.valid

end Session

namespace Recording

/-- An operation moves the bar as its event says. -/
theorem step_progress (r : Recording) (operation : Operation) :
    (r.step operation).1.display.progress =
      (r.session.lifecycle.written operation.event?).or r.display.progress := by
  cases operation with
  | signal told =>
    have moved := r.display.applyAll_progress
      (r.session.receiveSignal r.display.geometry told).effects
    rw [Session.percent?_receiveSignal] at moved
    refine moved.trans ?_
    cases r.session.lifecycle.written (Operation.signal told).event? <;> rfl
  | requestFullscreen | setWindow | setRefusal =>
    rw [step_of_rest r rfl]
    rfl

/-- No operation of a run reports progress. -/
def Silent (operations : List Operation) : Prop :=
  ∀ operation ∈ operations, ∀ sample, operation.event? ≠ some (.progress sample)

/-- The operation of a run that made the module load counted outstanding dependencies. -/
def BegunByTick (start : Recording) (operations : List Operation) : Prop :=
  ∃ earlier remaining later,
    operations = earlier ++ .signal (.life (.dependencies remaining)) :: later ∧ remaining ≠ 0 ∧
      (start.run earlier).session.lifecycle.state = .unloaded

/-- Where the bar can stand after a run, for each state of the module. -/
inductive Stands (start : Recording) (operations : List Operation) :
    Lifecycle.State → Option Float → Prop
  /-- Nothing has happened to the module. -/
  | unset (silent : Silent operations) : Stands start operations .unloaded none
  /-- The bar shows what the state stands for. -/
  | shows {state : Lifecycle.State} {percent : Float} (stands : state.percent? = some percent)
      (valid : IsPercentage percent) : Stands start operations state (some percent)
  /-- A count of dependencies began the load, and nothing has been told of progress. -/
  | ticked (begun : BegunByTick start operations) (silent : Silent operations) :
      Stands start operations (.loading 0.0) none
  /-- The module has failed, and the bar is where it was. -/
  | failed {state : Lifecycle.State} {shown : Option Float} (terminal : state.isTerminal = true)
      (valid : ∀ percent, shown = some percent → IsPercentage percent) :
      Stands start operations state shown

variable {start : Recording} {past : List Operation} {last : Operation}

/-- A run stays silent by an operation that reports no progress. -/
theorem Silent.concat (silent : Silent past)
    (unheard : ∀ sample, last.event? ≠ some (.progress sample)) : Silent (past ++ [last]) := by
  intro operation member
  rcases List.mem_append.mp member with before | now
  · exact silent operation before
  · rw [List.mem_singleton.mp now]
    exact unheard

/-- What made the module load did so whatever follows. -/
theorem BegunByTick.concat (begun : BegunByTick start past) (last : Operation) :
    BegunByTick start (past ++ [last]) := by
  obtain ⟨earlier, remaining, later, rfl, outstanding, unloaded⟩ := begun
  exact ⟨earlier, remaining, later ++ [last], by simp, outstanding, unloaded⟩

namespace Stands

variable {state : Lifecycle.State} {shown : Option Float}

/-- What the bar shows is a percentage. -/
theorem valid (stands : Stands start past state shown) {percent : Float}
    (is : shown = some percent) : IsPercentage percent := by
  cases stands with
  | unset | ticked => contradiction
  | shows _ valid => exact Option.some.inj is ▸ valid
  | failed _ valid => exact valid percent is

/-- The bar is unset while nothing has happened. -/
theorem of_unloaded (stands : Stands start past .unloaded shown) : shown = none := by
  cases stands with
  | unset => rfl
  | shows | failed => contradiction

/-- The bar shows how far a load is, unless nothing has been told of it. -/
theorem of_loading {percent : Float} (stands : Stands start past (.loading percent) shown) :
    IsPercentage percent ∧
      (shown = some percent ∨
        shown = none ∧ percent = 0.0 ∧ start.BegunByTick past ∧ Silent past) := by
  cases stands with
  | shows stands valid =>
    obtain rfl := Option.some.inj stands
    exact ⟨valid, Or.inl rfl⟩
  | ticked begun silent => exact ⟨isPercentage_zero, Or.inr ⟨rfl, rfl, begun, silent⟩⟩
  | failed => contradiction

/-- The bar shows that a module that runs is loaded. -/
theorem of_ready (stands : Stands start past .ready shown) : shown = some completePercent := by
  cases stands with
  | shows stands => exact stands.symm
  | failed => contradiction

/-- The bar goes on to agree with a state that stays, if a module that is waited for hears of no
progress. -/
theorem stay (stands : Stands start past state shown)
    (unheard : state.isWaiting = true → ∀ sample, last.event? ≠ some (.progress sample)) :
    Stands start (past ++ [last]) state shown := by
  cases stands with
  | unset silent => exact .unset (silent.concat (unheard rfl))
  | shows stands valid => exact .shows stands valid
  | ticked begun silent => exact .ticked (begun.concat last) (silent.concat (unheard rfl))
  | failed terminal valid => exact .failed terminal valid

end Stands

/-- Only a count of dependencies is that event. -/
theorem Operation.eq_of_event?_dependencies {operation : Operation} {remaining : UInt32}
    (is : operation.event? = some (.dependencies remaining)) :
    operation = .signal (.life (.dependencies remaining)) := by
  cases life : operation.isLife with
  | false =>
    rw [Operation.event?_of_rest life] at is
    contradiction
  | true =>
    rcases Operation.eq_of_isLife life with ⟨event, rfl⟩ | ⟨text, rfl⟩
    · obtain rfl : event = .dependencies remaining := Option.some.inj is
      rfl
    · obtain ⟨sample, -, same⟩ := Option.map_eq_some_iff.mp is
      contradiction

/-- An event leaves the bar in agreement with the state. -/
theorem Stands.advance {state next : Lifecycle.State} {shown written : Option Float}
    {event : Lifecycle.Event} (stands : Stands start past state shown)
    (advance : Lifecycle.Advance event state next written) (is : last.event? = some event)
    (before : (start.run past).session.lifecycle.state = state) :
    Stands start (past ++ [last]) next (written.or shown) := by
  cases advance with
  | stays unheard =>
    refine stands.stay fun waiting sample same => ?_
    exact unheard waiting sample (Option.some.inj (is.symm.trans same))
  | writes stands valid => exact .shows stands valid
  | ticks counts outstanding =>
    -- A module that is unloaded has been told nothing, so its silence carries over to the load.
    obtain rfl := Operation.eq_of_event?_dependencies (counts ▸ is)
    cases stands with
    | unset silent =>
      refine .ticked ⟨past, _, [], rfl, outstanding, before⟩ (silent.concat fun sample => ?_)
      simp [Operation.event?]
    | shows | failed => contradiction
  | fails terminal => exact .failed terminal fun percent is => stands.valid is

/-- An operation leaves the bar in agreement with the state. -/
theorem stands_step
    (stands : Stands start past (start.run past).session.lifecycle.state
      (start.run past).display.progress) (last : Operation) :
    Stands start (past ++ [last]) ((start.run past).step last).1.session.lifecycle.state
      ((start.run past).step last).1.display.progress := by
  rw [step_lifecycle, step_progress]
  cases is : last.event? with
  | none => exact stands.stay fun _ sample => by simp [is]
  | some event =>
    exact stands.advance ((start.run past).session.lifecycle.step_advances event) is rfl

/-- After every run of a fresh recording the bar agrees with the state. -/
theorem stands_run (unloaded : start.session.lifecycle.state = .unloaded)
    (unset : start.display.progress = none) (operations : List Operation) :
    Stands start operations (start.run operations).session.lifecycle.state
      (start.run operations).display.progress := by
  induction operations using List.reverseRecOn with
  | nil =>
    rw [run_nil, unloaded, unset]
    exact .unset fun operation member => by contradiction
  | append_singleton past last ih =>
    rw [run_concat]
    exact stands_step ih last

/-- An operation after which the module has failed leaves the bar alone. -/
theorem progress_of_failed (r : Recording) {operation : Operation}
    (failed : (r.step operation).1.session.lifecycle.state.isTerminal = true) :
    (r.step operation).1.display.progress = r.display.progress := by
  rw [step_lifecycle] at failed
  rw [step_progress]
  cases is : operation.event? with
  | none => rfl
  | some event =>
    rw [is] at failed
    have unwritten : r.session.lifecycle.written (some event) = none :=
      (r.session.lifecycle.step_advances event).unwritten failed
    rw [unwritten]
    rfl

/-- The bar of a page stays where it is once the module has failed. -/
theorem progress_of_terminal (r : Recording)
    (terminal : r.session.lifecycle.state.isTerminal = true) (later : List Operation) :
    (r.run later).display.progress = r.display.progress := by
  induction later using List.reverseRecOn with
  | nil => rfl
  | append_singleton past last ih =>
    have failed : (r.run (past ++ [last])).session.lifecycle.state.isTerminal = true := by
      rw [lifecycle_of_terminal r terminal, terminal]
    rw [run_concat] at failed ⊢
    rw [progress_of_failed _ failed, ih]

/-- While nothing has happened to a module its bar is unset. While it loads the bar shows how far it
is, or is still unset, and then the load is at 0, it began with a count of outstanding dependencies,
and nothing has been told of progress. Once it runs the bar shows 100, and from the operation on
that makes it fail the bar stays where it was. What a load is at, what is written to the bar in
whatever session, and what any observation of a load amounts to are percentages. -/
theorem bar_agrees_with_life (config : Config) (transcript : Scrollback) (canvas window : Size)
    (operations : List Operation) :
    let start : Recording := ⟨{ config, transcript }, { canvas, window }⟩
    let now := start.run operations
    (now.session.lifecycle.state = .unloaded → now.display.progress = none) ∧
      (∀ percent, now.session.lifecycle.state = .loading percent →
        IsPercentage percent ∧
          (now.display.progress = some percent ∨
            now.display.progress = none ∧ percent = 0.0 ∧ start.BegunByTick operations ∧
              Silent operations)) ∧
      (now.session.lifecycle.state = .ready → now.display.progress = some 100.0) ∧
      (∀ last later, (now.step last).1.session.lifecycle.state.isTerminal = true →
        ((now.step last).1.run later).display.progress = now.display.progress) ∧
      (∀ percent, now.display.progress = some percent → IsPercentage percent) ∧
      (∀ (session : Session) (geometry : Geometry) (signal : Signal) (percent : Float),
        .progress percent ∈ (session.receiveSignal geometry signal).effects →
          IsPercentage percent) ∧
      ∀ sample : Sample, IsPercentage sample.percent := by
  intro start now
  have stands : Stands start operations now.session.lifecycle.state now.display.progress :=
    stands_run rfl rfl operations
  refine ⟨?_, ?_, ?_, ?_, ?_, ?_, Sample.isPercentage_percent⟩
  · exact fun unloaded => (unloaded ▸ stands).of_unloaded
  · exact fun percent loading => (loading ▸ stands).of_loading
  · exact fun ready => (ready ▸ stands).of_ready
  · intro last later failed
    rw [progress_of_terminal _ failed, progress_of_failed now failed]
  · exact fun percent is => stands.valid is
  · exact fun session geometry signal percent => session.isPercentage_of_mem geometry signal

/-- A load that begins with a count of dependencies leaves the bar unset, and so does a crash after
it. A load that completes brings it to 100, and so does an observation of infinitely many bytes. -/
theorem bar_agrees_with_life_ticked :
    let start : Recording := ⟨{ config := {}, transcript := {} }, .standard⟩
    let tick : Operation := .signal (.life (.dependencies 3))
    let ticked := start.run [tick]
    let crashed := (ticked.step (.signal (.life .crash))).1
    let observed : Sample := .bytes (1.0 / 0.0) (1.0 / 0.0)
    (start.run []).display.progress = none ∧
      ticked.session.lifecycle.state = .loading 0.0 ∧ ticked.display.progress = none ∧
      start.BegunByTick [tick] ∧ Silent [tick] ∧
      (crashed.run [.signal (.life .load)]).display.progress = ticked.display.progress ∧
      (start.run [tick, .signal (.life .load)]).display.progress = some 100.0 ∧
      observed.percent = completePercent ∧ IsPercentage observed.percent := by
  intro start tick ticked crashed observed
  have theory := bar_agrees_with_life {} {} ⟨800, 600⟩ ⟨1920, 1080⟩
  obtain ⟨-, loading, -, failed, -, written, -⟩ := theory [tick]
  have silent : ticked.display.progress = none ∧ start.BegunByTick [tick] ∧ Silent [tick] := by
    rcases (loading 0.0 rfl).2 with shown | ⟨unset, -, begun, silent⟩
    · contradiction
    · exact ⟨unset, begun, silent⟩
  have told : Effect.progress observed.percent ∈
      (start.session.receiveSignal ⟨⟨0, 0⟩, ⟨0, 0⟩⟩ (.life (.progress observed))).effects :=
    List.mem_of_mem_tail List.mem_cons_self
  exact ⟨(theory []).1 rfl, rfl, silent.1, silent.2.1, silent.2.2, failed _ _ rfl,
    (theory [tick, .signal (.life .load)]).2.2.1 rfl, by decide, written _ _ _ _ told⟩

end Recording

end Embed
