import Embed.Host.Run
/-!
# Calls of a page's functions

Two calls of a host run a function of the page, and with it further steps: a post runs the attached
element's function for messages, a request runs the canvas's function for fullscreen. The laws here
take such a call apart into the world in which the function begins, the steps it takes, and what is
done when it has ended, so that whatever holds along steps can be carried through calls of any
depth.
-/

namespace Embed

/-- The value that a call of the host posts to the attached element. -/
def HostCall.posted? : HostCall → Option PageValue
  | .postMessage payload => some payload
  | .postCommand kind none => some (.text (Command.text ⟨kind, none⟩))
  | .postCommand kind (some text) =>
    match Json.parse text with
    | .ok value => some (.text (Command.text ⟨kind, some value⟩))
    | .error _ => none
  | _ => none

namespace World

variable (take : World → Step → Ran)

/-- The world after steps. -/
def after (w : World) (steps : List Step) : World :=
  steps.foldl (fun w step => (take w step).world) w

/-- Taking steps leads to the world after them, whatever they yield. -/
theorem fst_takeAll (w : World) (steps : List Step) :
    (takeAll take w steps).1 = after take w steps := by
  unfold takeAll after
  exact (List.foldl_hom Prod.fst fun _ _ => rfl).symm

variable {take} in
/-- What every step keeps, steps keep. -/
theorem after_keeps {P : World → Prop} (keeps : ∀ w step, P w → P (take w step).world) (w : World)
    (steps : List Step) (holds : P w) : P (after take w steps) := by
  induction steps generalizing w with
  | nil => exact holds
  | cons step rest ih => exact ih (take w step).world (keeps w step holds)

/-- The function for messages that a post would run, with the id of its element. -/
def posting? (w : World) : Option (String × Hook) :=
  match w.host.bind (·.attached) with
  | none => none
  | some id =>
    match w.page.postHook? id with
    | none => none
    | some hook => if hook.running then none else some (id, hook)

/-- The world in which an element's function for messages begins. -/
def beginPost (w : World) (id : String) (payload : PageValue) : World :=
  w.mapPage fun page => (page.note (.postMessage id payload)).setPosting id true

/-- The world after an element's function for messages has ended. -/
def endPost (w : World) (id : String) : World :=
  w.mapPage (·.setPosting id false)

/-- A post does what the function it runs does. -/
theorem world_post (w : World) (payload : PageValue) :
    (w.post take payload).world =
      match w.posting? with
      | some (id, hook) => (after take (w.beginPost id payload) hook.script.steps).endPost id
      | none => w := by
  unfold post posting?
  cases w.host.bind (·.attached) with
  | none => rfl
  | some id =>
    dsimp only
    cases w.page.postHook? id with
    | none => rfl
    | some hook =>
      dsimp only [callPost]
      cases hook.running with
      | true => rfl
      | false =>
        simp only [Bool.false_eq_true, ↓reduceIte, fst_takeAll]
        rfl

/-- A posted command does what the post of its text does, if its value is JSON. -/
theorem world_postCommand (w : World) (kind : String) (json : Option String) :
    (w.postCommand take kind json).world =
      match (HostCall.postCommand kind json).posted? with
      | some payload => (w.post take payload).world
      | none => w := by
  cases json with
  | none => rfl
  | some text =>
    simp only [postCommand, HostCall.posted?]
    cases Json.parse text <;> rfl

/-- The function for fullscreen that a request would run. -/
def requesting? (w : World) (canvas : String) : Option Hook :=
  match (w.page.element? canvas).bind (·.onFullscreen) with
  | none => none
  | some hook => if hook.running then none else some hook

/-- What a request of fullscreen would throw. -/
def refusal? (w : World) (canvas : String) : Option PageValue :=
  (w.requesting? canvas).bind (·.script.raised)

/-- The world in which the platform is asked for fullscreen: the session has kept the size of the
canvas, and is in use. -/
def beginRequest (w : World) (canvas : String) : World :=
  { w.mapSession (·.beginRequest (w.page.canvasSize canvas)) with
    page := w.page.note (.requestFullscreen canvas)
    busy := true }

/-- The world after the platform has answered: the session is told of a refusal, and is free. -/
def endRequest (w : World) (refused : Bool) : World :=
  let free := { w with busy := false }
  if refused then free.mapSession Session.cancelRequest else free

/-- The world after the canvas's function for fullscreen has run, if there is one to run. -/
def afterRequest (w : World) (canvas : String) : Option Hook → World
  | some hook =>
    (after take (w.mapPage (·.setRequesting canvas true)) hook.script.steps).mapPage
      (·.setRequesting canvas false)
  | none => w

/-- A call of the canvas's function for fullscreen does what its steps do, and throws what it is
set to throw. -/
theorem callFullscreen_eq (w : World) (canvas : String) :
    let noted := w.mapPage (·.note (.requestFullscreen canvas))
    (callFullscreen take w canvas).world = noted.afterRequest take canvas (w.requesting? canvas) ∧
      (callFullscreen take w canvas).raised = w.refusal? canvas := by
  have looked : (w.page.note (.requestFullscreen canvas)).element? canvas = w.page.element? canvas :=
    rfl
  intro noted
  dsimp only [callFullscreen, refusal?, requesting?]
  rw [looked]
  cases (w.page.element? canvas).bind (·.onFullscreen) with
  | none => exact ⟨rfl, rfl⟩
  | some hook =>
    dsimp only
    cases hook.running with
    | true => exact ⟨rfl, rfl⟩
    | false =>
      simp only [Bool.false_eq_true, ↓reduceIte, fst_takeAll]
      exact ⟨rfl, rfl⟩

/-- A request that finds the session free does what the function it runs does, and fails where that
function throws. -/
theorem requestFullscreen_eq (w : World) (host : Host) (present : w.host = some host)
    (free : w.busy = false) :
    let canvas := host.parts.canvas
    (w.requestFullscreen take).world =
        ((w.beginRequest canvas).afterRequest take canvas (w.requesting? canvas)).endRequest
          (w.refusal? canvas).isSome ∧
      (w.requestFullscreen take).result =
        match w.refusal? canvas with
        | some value => .refused (Failure.platform value.describe).message
        | none => .done := by
  intro canvas
  obtain ⟨world, raised⟩ := callFullscreen_eq take
    { w.mapSession (·.beginRequest (w.page.canvasSize canvas)) with busy := true } canvas
  change (callFullscreen take _ canvas).world =
    (w.beginRequest canvas).afterRequest take canvas (w.requesting? canvas) at world
  change (callFullscreen take _ canvas).raised = w.refusal? canvas at raised
  unfold requestFullscreen
  rw [present, free]
  simp only [Bool.false_eq_true, ↓reduceIte]
  rw [raised, world]
  cases w.refusal? canvas <;> exact ⟨rfl, rfl⟩

end World

end Embed
