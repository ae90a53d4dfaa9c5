import Embed.Proofs.Agreement
/-!
# What a page demands of its host

A page turns to its host by events and calls, from its own steps and from the functions that calls
run. The journal of a run lists these demands in the order in which they are made, whatever function
they are made from. It notes of each what the page had to tell at that moment, what came of it, and
whether it was made from within a function for fullscreen, or from what such a function called,
while the session is in use.

Read without the demands that were made from within functions for fullscreen, a journal is a flat
list of operations, which can be done in a recording one after the other.
-/

namespace Embed

/-- What an event or a call demands of a host. -/
inductive Demand where
  /-- The session is told something. -/
  | tell (signal : Signal)
  /-- Fullscreen is requested. -/
  | request
  /-- Whether the window is filled without the platform is asked. -/
  | askSoft
  /-- The state of the module is asked for. -/
  | askState
  /-- Counters, canvas and viewport are asked for. -/
  | askStats
  /-- The host is given up. -/
  | drop

/-- The operation of a recording that a demand is, unless it only asks. -/
def Demand.operation? : Demand → Option Recording.Operation
  | .tell signal => some (.signal signal)
  | .request => some .requestFullscreen
  | _ => none

/-- What a call demands of the host. Attaching, detaching and posting demand nothing of its session.
-/
def HostCall.demand? : HostCall → Option Demand
  | .requestFullscreen => some .request
  | .isSoft => some .askSoft
  | .stateText => some .askState
  | .statsText => some .askStats
  | .drop => some .drop
  | call => call.signal?.map .tell

/-- A function of the page that runs. -/
structure Frame where
  /-- Whether it is one for fullscreen. -/
  requests : Bool
  /-- The world in which it begins. -/
  world : World
  /-- The steps that it takes. -/
  steps : List Step

/-- A demand in a journal. -/
structure Entry where
  /-- Whether it was made from within a function for fullscreen, or from what one called. -/
  shielded : Bool
  /-- The demand. -/
  demand : Demand
  /-- The size of the window at that moment. -/
  window : Size
  /-- Why the platform would refuse fullscreen at that moment, if it would. -/
  refusal : Option String
  /-- What came of it. -/
  result : Result

namespace Entry

/-- The operations of a recording that a demand stands for: none if it was made from within a
function for fullscreen, and otherwise its own, after the recorded page was brought up to date. -/
def operations (e : Entry) : List Recording.Operation :=
  if e.shielded then []
  else
    match e.demand.operation? with
    | none => []
    | some operation => [.setWindow e.window, .setRefusal e.refusal, operation]

/-- What came of a demand is what a recording says that it meets. From within a function for
fullscreen there is nothing to be had: a question goes without its answer, and a request fails. -/
def AnsweredBy (e : Entry) (r : Recording) : Prop :=
  match e.demand, e.shielded with
  | .tell _, _ => e.result = .done
  | .drop, _ => e.result = .done
  | .request, true => e.result = .refused (Failure.platform "bridge busy").message
  | .request, false =>
    e.result =
      match ((r.run [.setWindow e.window, .setRefusal e.refusal]).step .requestFullscreen).2 with
      | .failed failure => .refused failure.message
      | _ => .done
  | .askSoft, true => e.result = .truth false
  | .askSoft, false => e.result = .truth r.session.viewport.isSoft
  | .askState, true => e.result = .text "\x7b\x7d"
  | .askState, false => e.result = .text r.session.lifecycle.state.toValue.render
  | .askStats, true => e.result = .text "\x7b\x7d"
  | .askStats, false =>
    ∃ (host : Host) (page : Page), host.Shows page r ∧ e.result = .text (host.statsText page)

end Entry

namespace Recording

/-- A recording in which the operations of a journal are done. -/
def replay (r : Recording) (entries : List Entry) : Recording :=
  r.run (entries.flatMap Entry.operations)

/-- What came of each demand of a journal is what the recording says, in which the operations of the
demands before it were done. -/
inductive Answers : Recording → List Entry → Prop where
  /-- Nothing was demanded. -/
  | nil (r : Recording) : Answers r []
  /-- A demand is answered, and then the others are. -/
  | cons {r : Recording} {e : Entry} {rest : List Entry} (first : e.AnsweredBy r)
      (others : Answers (r.run e.operations) rest) : Answers r (e :: rest)

variable (r : Recording)

/-- A journal does its first demand first. -/
theorem replay_cons (e : Entry) (rest : List Entry) :
    r.replay (e :: rest) = (r.run e.operations).replay rest := by
  unfold replay
  rw [List.flatMap_cons, run_append]

/-- A journal does its parts one after the other. -/
theorem replay_append (first second : List Entry) :
    r.replay (first ++ second) = (r.replay first).replay second := by
  unfold replay
  rw [List.flatMap_append, run_append]

variable {r}

/-- A journal is answered if its parts are, one after the other. -/
theorem answers_append {first second : List Entry} (begins : r.Answers first)
    (ends : (r.replay first).Answers second) : r.Answers (first ++ second) := by
  induction begins with
  | nil r => exact ends
  | cons first _ ih =>
    rw [replay_cons] at ends
    exact .cons first (ih ends)

/-- Demands made from within a function for fullscreen do nothing. -/
theorem replay_of_shielded {entries : List Entry} (shielded : ∀ e ∈ entries, e.shielded) :
    r.replay entries = r := by
  induction entries with
  | nil => rfl
  | cons e rest ih =>
    have first : e.operations = [] := by
      unfold Entry.operations
      rw [shielded e List.mem_cons_self]
      rfl
    rw [replay_cons, first]
    exact ih fun e member => shielded e (List.mem_cons_of_mem _ member)

/-- What comes of a demand made from within a function for fullscreen depends on no recording. -/
theorem answeredBy_of_shielded {e : Entry} (r' : Recording) (shielded : e.shielded)
    (answered : e.AnsweredBy r) : e.AnsweredBy r' := by
  unfold Entry.AnsweredBy at *
  rw [shielded] at *
  cases demand : e.demand <;> simpa only [demand] using answered

/-- What comes of demands made from within a function for fullscreen depends on no recording. -/
theorem answers_of_shielded {entries : List Entry} (r' : Recording)
    (shielded : ∀ e ∈ entries, e.shielded) (answers : r.Answers entries) : r'.Answers entries := by
  induction answers generalizing r' with
  | nil r => exact .nil r'
  | @cons r e rest first _ ih =>
    have others : ∀ e ∈ rest, e.shielded := fun e member =>
      shielded e (List.mem_cons_of_mem _ member)
    exact .cons (answeredBy_of_shielded r' (shielded e List.mem_cons_self) first) (ih _ others)

end Recording

namespace World

/-- Why the platform would refuse fullscreen, if it would. -/
def refusalText? (w : World) : Option String :=
  w.host.bind fun host => (w.refusal? host.parts.canvas).map PageValue.describe

/-- What a step demands of the host, which has to be there. An event has to be one that it listens
for. -/
def demand? (w : World) : Step → Option Demand
  | .fire target kind event =>
    if (target, kind) ∈ w.listening then (w.signal? target kind event).map .tell else none
  | .call call => w.host.bind fun _ => call.demand?
  | _ => none

/-- The function of the page that a step runs. -/
def frame? (w : World) : Step → Option Frame
  | .call .requestFullscreen =>
    if w.busy then none
    else
      w.host.bind fun host =>
        (w.requesting? host.parts.canvas).map fun hook =>
          { requests := true
            world := (w.beginRequest host.parts.canvas).mapPage
              (·.setRequesting host.parts.canvas true)
            steps := hook.script.steps }
  | .call call =>
    call.posted?.bind fun payload =>
      w.posting?.map fun (id, hook) =>
        { requests := false
          world := w.beginPost id payload
          steps := hook.script.steps }
  | _ => none

/-- The journal's entry of a demand. -/
def entry (w : World) (shielded : Bool) (demand : Demand) (result : Result) : Entry :=
  { shielded, demand, window := w.page.windowSize, refusal := w.refusalText?, result }

/-- The journal of steps, over the journal of one. -/
def journalAll (take : World → Step → Ran) (journal : World → Step → List Entry) (w : World) :
    List Step → List Entry
  | [] => []
  | step :: rest => journal w step ++ journalAll take journal (take w step).world rest

/-- The journal of a function of the page, if one runs. Within a function for fullscreen, and in
whatever runs within it, all demands are marked. -/
def journalFrame (take : World → Step → Ran) (journal : Bool → World → Step → List Entry)
    (shielded : Bool) : Option Frame → List Entry
  | none => []
  | some frame => journalAll take (journal (shielded || frame.requests)) frame.world frame.steps

/-- The journal of a step, over the journal of the steps of scripts: what the step itself demands,
and then what is demanded in the function that it runs. -/
def journalWith (take : World → Step → Ran) (journal : Bool → World → Step → List Entry)
    (shielded : Bool) (w : World) (step : Step) : List Entry :=
  let own := (w.demand? step).map fun demand =>
    w.entry shielded demand (takeWith take w step).result
  own.toList ++ journalFrame take journal shielded (w.frame? step)

/-- The journal of a step in which calls of the page's functions nest at most `depth` deep. -/
def journal : (depth : Nat) → (shielded : Bool) → World → Step → List Entry
  | 0 => journalWith (fun w _ => { world := w }) fun _ _ _ => []
  | depth + 1 => journalWith (take depth) (journal depth)

/-- A call of a host that is there is journalled as what it demands and the function that it runs.
-/
theorem journalWith_call (take : World → Step → Ran) (journal : Bool → World → Step → List Entry)
    (shielded : Bool) {w : World} {host : Host} (present : w.host = some host) (call : HostCall) :
    journalWith take journal shielded w (.call call) =
      (call.demand?.map fun demand =>
        w.entry shielded demand (w.callHost take call).result).toList ++
      journalFrame take journal shielded (w.frame? (.call call)) := by
  unfold journalWith demand?
  rw [present]
  rfl

/-- Without a host no step runs a function of the page. -/
theorem frame?_of_absent {w : World} (absent : w.host = none) (step : Step) :
    w.frame? step = none := by
  have silent : w.posting? = none := by
    unfold posting?
    rw [absent]
    rfl
  cases step with
  | call call =>
    cases call with
    | requestFullscreen =>
      unfold frame?
      rw [absent]
      exact ite_self none
    | _ =>
      unfold frame?
      rw [silent]
      simp
  | _ => rfl

/-- A call that reports something demands that, yields nothing and runs no function of the page. -/
theorem report_demand (take : World → Step → Ran) (w : World) {call : HostCall} {signal : Signal}
    (reports : call.signal? = some signal) :
    call.demand? = some (.tell signal) ∧ (w.callHost take call).result = .done ∧
      w.frame? (.call call) = none := by
  have silent : (w.callHost take call).result = .done := by
    unfold callHost
    cases w.host with
    | none => rfl
    | some host => cases call <;> first | rfl | contradiction
  refine ⟨?_, silent, ?_⟩
  · cases call <;> first | contradiction | exact congrArg (Option.map Demand.tell) reports
  · cases call <;> first | contradiction | rfl

end World

end Embed
