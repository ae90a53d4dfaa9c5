import Embed.Proofs.Attachment
import Embed.Proofs.CanvasSizes
/-!
# No canvas is collapsed

A host writes to a canvas what its session gives it, and a session gives solid sizes only. What
else happens on a page, to elements, listeners or the window, writes no dimension and leaves every
size as it is. `Page.Spares` puts both together as one relation between a page and what becomes of
it. Every call of a host and every step of a page keeps it, and so do the steps that scripts take in
between.
-/

namespace Embed

/-- The pixels that an effect on a page writes to a dimension of a canvas. -/
def Trace.pixels? : Trace → Option UInt32
  | .width _ pixels | .height _ pixels => some pixels
  | _ => none

namespace Page

/-- What becomes of a page collapses no canvas. -/
structure Spares (before after : Page) : Prop where
  /-- The trace grows, and every width or height in it is other than zero. -/
  traced : ∃ written, after.trace = before.trace ++ written ∧
    ∀ entry ∈ written, entry.pixels? ≠ some 0
  /-- A canvas that was solid is solid. -/
  solid : ∀ id, (before.canvasSize id).Solid → (after.canvasSize id).Solid

variable {before between after : Page}

/-- What leaves elements and trace alone collapses no canvas. -/
theorem spares_of_elements (elements : after.elements = before.elements)
    (trace : after.trace = before.trace) : before.Spares after where
  traced := ⟨[], by rw [trace, List.append_nil], fun entry member => by contradiction⟩
  solid := by
    intro id solid
    unfold canvasSize element?
    rw [elements]
    exact solid

/-- A page as it is has collapsed no canvas. -/
theorem Spares.refl (page : Page) : page.Spares page :=
  spares_of_elements rfl rfl

/-- One thing after the other collapses no canvas if neither does. -/
theorem Spares.trans (first : before.Spares between) (second : between.Spares after) :
    before.Spares after where
  traced := by
    obtain ⟨earlier, begun, spared⟩ := first.traced
    obtain ⟨later, ended, sparing⟩ := second.traced
    refine ⟨earlier ++ later, by rw [ended, begun, List.append_assoc], fun entry member => ?_⟩
    rcases List.mem_append.mp member with inside | inside
    · exact spared entry inside
    · exact sparing entry inside
  solid := fun id solid => second.solid id (first.solid id solid)

/-- An effect that writes no zero collapses no canvas. -/
theorem Spares.write (spared : before.Spares after) (entry : Trace)
    (sparing : entry.pixels? ≠ some 0) : before.Spares (after.note entry) := by
  refine spared.trans ⟨⟨[entry], rfl, fun other member => ?_⟩, fun _ solid => solid⟩
  rw [List.mem_singleton.mp member]
  exact sparing

/-- An effect that writes no dimension collapses no canvas. -/
theorem Spares.note (spared : before.Spares after) (entry : Trace) (plain : entry.pixels? = none) :
    before.Spares (after.note entry) :=
  spared.write entry (by simp [plain])

/-- A change of elements that keeps ids and sizes collapses no canvas. -/
theorem spares_modify (page : Page) (id : String) (f : Element → Element)
    (stable : ∀ e, (f e).id = e.id) (size : ∀ e, (f e).size = e.size) :
    page.Spares (page.modify id f) where
  traced := ⟨[], (List.append_nil _).symm, fun entry member => by contradiction⟩
  solid := by
    intro canvas solid
    rw [canvasSize_modify page id canvas f stable size]
    exact solid

/-- Marking a function for messages collapses no canvas. -/
theorem spares_setPosting (page : Page) (id : String) (running : Bool) :
    page.Spares (page.setPosting id running) :=
  page.spares_modify id _ (fun _ => rfl) fun _ => rfl

/-- Marking a function for fullscreen collapses no canvas. -/
theorem spares_setRequesting (page : Page) (id : String) (running : Bool) :
    page.Spares (page.setRequesting id running) :=
  page.spares_modify id _ (fun _ => rfl) fun _ => rfl

/-- A solid size collapses no canvas. -/
theorem spares_setCanvasSize (page : Page) (id : String) {size : Size} (solid : size.Solid) :
    page.Spares (page.setCanvasSize id size) := by
  have resized : page.Spares (page.modify id fun e => { e with size }) := by
    refine ⟨⟨[], (List.append_nil _).symm, fun entry member => by contradiction⟩, ?_⟩
    -- Whatever stands under the id takes the size, and any other element keeps its own.
    intro canvas before
    unfold canvasSize at before ⊢
    rw [element?_modify page id canvas (fun e => { e with size }) fun _ => rfl]
    cases found : page.element? canvas with
    | none =>
      rw [found] at before
      exact before
    | some e =>
      rw [found] at before
      by_cases same : e.id = id
      · simpa [same] using solid
      · simpa [same] using before
  have width : (Trace.width id size.width).pixels? ≠ some 0 :=
    fun zero => solid.width (Option.some.inj zero)
  have height : (Trace.height id size.height).pixels? ≠ some 0 :=
    fun zero => solid.height (Option.some.inj zero)
  exact (resized.write _ width).write _ height

/-- Showing or hiding a surface collapses no canvas. -/
theorem spares_toggle (page : Page) (parts : Parts) (surface : Surface) (shown : Bool) :
    page.Spares (page.toggle parts surface shown) := by
  unfold toggle
  cases parts.surface? surface with
  | none => exact .refl page
  | some id =>
    simp only [setShown]
    cases page.thrown? (.element id) .style with
    | none => cases shown <;> exact Spares.note (.refl page) _ rfl
    | some value => exact Spares.note (.refl page) _ rfl

/-- Showing a text collapses no canvas. -/
theorem spares_showText (page : Page) (id content : String) :
    page.Spares (page.showText id content) := by
  dsimp only [showText]
  split
  · exact (Spares.note (.refl page) (.value id content) rfl).note _ rfl
  · exact (Spares.note (.refl page) (.text id content) rfl).note _ rfl

/-- An effect that gives the canvas no other than a solid size collapses no canvas. -/
theorem spares_apply (page : Page) (parts : Parts) (echo : Bool) {effect : Effect}
    (solid : ∀ size, effect.canvas? = some size → size.Solid) :
    page.Spares (page.apply parts echo effect) := by
  cases effect with
  | output piece text =>
    have echoed : page.Spares (if echo then page.log (withoutLineBreaks piece) else page) := by
      cases echo with
      | true => exact Spares.note (.refl page) _ rfl
      | false => exact .refl page
    simp only [apply]
    cases parts.output with
    | none => exact echoed
    | some id => exact echoed.trans (spares_showText _ id text)
  | visible surface shown => exact page.spares_toggle parts surface shown
  | canvas size => exact page.spares_setCanvasSize parts.canvas (solid size rfl)
  | status text =>
    simp only [apply]
    cases parts.status with
    | none => exact .refl page
    | some id => exact Spares.note (.refl page) _ rfl
  | progress percent =>
    simp only [apply]
    cases parts.progress with
    | none => exact .refl page
    | some id => exact Spares.note (.refl page) _ rfl

/-- Effects that give the canvas no other than solid sizes collapse no canvas. -/
theorem spares_applyAll (page : Page) (parts : Parts) (echo : Bool) {effects : List Effect}
    (solid : ∀ effect ∈ effects, ∀ size, effect.canvas? = some size → size.Solid) :
    page.Spares (page.applyAll parts echo effects) := by
  induction effects generalizing page with
  | nil => exact .refl page
  | cons effect effects ih =>
    have first := page.spares_apply parts echo (solid effect List.mem_cons_self)
    have rest := ih (page.apply parts echo effect) fun later member =>
      solid later (List.mem_cons_of_mem effect member)
    exact first.trans rest

/-- Other listeners collapse no canvas. -/
theorem spares_relisted (page : Page) (listeners : List Listener) :
    page.Spares { page with listeners } :=
  spares_of_elements rfl rfl

/-- Letting go of listeners collapses no canvas. -/
theorem spares_dropListeners (page : Page) (held : List (Target × EventKind)) :
    page.Spares (page.dropListeners held) := by
  induction held generalizing page with
  | nil => exact .refl page
  | cons first rest ih =>
    have dropped : page.Spares (page.dropListener first.1 first.2) := by
      unfold dropListener
      split
      · exact (page.spares_relisted _).note (.removed _ _) rfl
      · exact (page.spares_relisted _).note (.log _) rfl
    exact dropped.trans (ih _)

/-- Adding listeners collapses no canvas, also where it fails. -/
theorem spares_addListeners (page : Page) (held rest : List (Target × EventKind)) :
    page.Spares (page.addListeners held rest).1 := by
  induction rest generalizing page held with
  | nil => exact .refl page
  | cons first rest ih =>
    obtain ⟨target, kind⟩ := first
    unfold addListeners addListener
    cases page.thrown? target (.add kind) with
    | some value => exact page.spares_dropListeners held
    | none =>
      have added := (page.spares_relisted (page.listeners ++ [⟨target, kind, true⟩])).note
        (.added target kind) rfl
      exact added.trans (ih _ _)

/-- Looking an element up collapses no canvas. -/
theorem spares_lookUp (page : Page) (id : Option String) : page.Spares (page.lookUp id).1 := by
  unfold lookUp
  cases id with
  | none => exact .refl page
  | some id =>
    dsimp only
    cases page.element? id with
    | none => exact Spares.note (.refl page) _ rfl
    | some e => exact .refl page

/-- Finding the parts of a page collapses no canvas. -/
theorem spares_findParts (page : Page) (canvas : String) (ids : ElementIds) :
    page.Spares (page.findParts canvas ids).1 := by
  have looked := (((page.spares_lookUp ids.spinner).trans (spares_lookUp _ ids.output)).trans
    (spares_lookUp _ ids.status)).trans (spares_lookUp _ ids.progress)
  dsimp only [findParts]
  split
  · exact looked.note _ rfl
  · exact looked

/-- Putting a host on a page collapses no canvas, also where it fails. -/
theorem spares_mount (page : Page) (text : String) : page.Spares (page.mount text).1.page := by
  unfold mount
  cases Config.parse text with
  | error e => exact .refl page
  | ok config =>
    dsimp only
    cases page.findCanvas config.elements.canvas with
    | error failure => exact .refl page
    | ok canvas =>
      have listened := (page.spares_findParts canvas config.elements).trans
        (spares_addListeners _ [] Host.pageListeners)
      dsimp only
      cases outcome : (page.findParts canvas config.elements).1.addListeners []
          Host.pageListeners with
      | mk page' raised =>
        rw [outcome] at listened
        cases raised with
        | some value => exact listened
        | none => exact listened.note _ rfl

end Page

namespace World

/-- Telling the session something collapses no canvas, unless it is a message that nothing decodes
to. -/
theorem spares_tell (w : World) (signal : Signal) (decodable : signal.Decodable) :
    w.page.Spares (w.tell signal).1.page := by
  unfold tell
  cases w.host with
  | none => exact .refl w.page
  | some host =>
    cases w.busy with
    | true => exact .note (.refl w.page) _ rfl
    | false =>
      exact w.page.spares_applyAll host.parts _ fun effect member size sizes =>
        Session.solid_of_mem decodable member sizes

/-- What comes of telling the session something collapses no canvas. -/
theorem spares_of_tell {w w' : World} {signal : Signal} {reply : Option Reply}
    (told : w.tell signal = (w', reply)) (decodable : signal.Decodable) :
    w.page.Spares w'.page := by
  have spares := w.spares_tell signal decodable
  rw [told] at spares
  exact spares

/-- A failed load collapses no canvas. -/
theorem spares_reportError (w : World) (message : String) :
    w.page.Spares (w.reportError message).page := by
  unfold reportError
  split
  · rename_i told
    exact (spares_of_tell told trivial).note _ rfl
  · rename_i told
    exact spares_of_tell told trivial

/-- A crash collapses no canvas. -/
theorem spares_reportCrash (w : World) (exitStatus : Option Int) :
    w.page.Spares (w.reportCrash exitStatus).page := by
  unfold reportCrash
  split
  · rename_i told
    cases exitStatus with
    | none | some => exact (spares_of_tell told trivial).note _ rfl
  · rename_i told
    exact spares_of_tell told trivial

/-- A complete load collapses no canvas. -/
theorem spares_reportLoad (w : World) : w.page.Spares w.reportLoad.page :=
  (w.spares_tell (.life .load) trivial).note _ rfl

/-- Data on the message channel collapses no canvas. -/
theorem spares_receive (w : World) (data : PageValue) : w.page.Spares (w.receive data).page := by
  unfold receive
  cases data.payload? with
  | none => exact .note (.refl w.page) _ rfl
  | some payload =>
    dsimp only
    split
    · rename_i told
      exact (spares_of_tell told trivial).note _ rfl
    · rename_i told
      exact spares_of_tell told trivial

/-- An event that is heard collapses no canvas. -/
theorem spares_handle (w : World) (target : Target) (kind : EventKind) (event : PageEvent) :
    w.page.Spares (w.handle target kind event).page := by
  cases kind with
  | loadStart => exact w.spares_tell _ trivial
  | progress => exact w.spares_tell _ trivial
  | load => exact w.spares_reportLoad
  | error => exact w.spares_reportError _
  | crash => exact w.spares_reportCrash _
  | message =>
    cases event with
    | message data => exact w.spares_receive data
    | plain | progress => exact .note (.refl w.page) _ rfl
  | fullscreenChange => exact w.spares_tell _ trivial
  | resize => exact w.spares_tell _ trivial
  | other => exact .refl w.page

/-- An event collapses no canvas, however many listeners it has. -/
theorem spares_fire (w : World) (target : Target) (kind : EventKind) (event : PageEvent) :
    w.page.Spares (w.fire target kind event).page := by
  unfold fire
  induction w.page.listenersFor target kind generalizing w with
  | nil => exact .refl w.page
  | cons l rest ih => exact (w.spares_handle l.target l.kind event).trans (ih _)

/-- Detaching collapses no canvas. -/
theorem spares_detach (w : World) : w.page.Spares w.detach.page := by
  unfold detach
  cases w.host with
  | none => exact .refl w.page
  | some host =>
    dsimp only
    cases host.attached with
    | none => exact .refl w.page
    | some id => exact .trans (.note (.refl w.page) (.log _) rfl) (Page.spares_dropListeners _ _)

/-- Attaching collapses no canvas. -/
theorem spares_attach (w : World) (id : String) : w.page.Spares (w.attach id).1.page := by
  have detached := w.spares_detach
  have added := w.detach.page.spares_addListeners [] (Host.moduleListeners id)
  unfold attach
  dsimp only
  cases w.detach.host with
  | none => exact detached
  | some host =>
    dsimp only
    cases outcome : w.detach.page.addListeners [] (Host.moduleListeners id) with
    | mk page raised =>
      rw [outcome] at added
      cases raised with
      | some value => exact detached.trans added
      | none => exact (detached.trans added).note _ rfl

/-- Attaching what has to be looked up collapses no canvas. -/
theorem spares_attachById (w : World) (id : String) : w.page.Spares (w.attachById id).1.page := by
  unfold attachById
  cases w.host with
  | none => exact .refl w.page
  | some host =>
    dsimp only
    split
    · exact .note (.refl w.page) _ rfl
    · split
      · exact w.spares_attach id
      · exact .refl w.page

/-- Giving up the host collapses no canvas. -/
theorem spares_drop (w : World) : w.page.Spares w.drop.page := by
  unfold drop
  cases w.host with
  | none => exact .refl w.page
  | some host => exact w.page.spares_dropListeners _

/-- A question collapses no canvas. -/
theorem spares_ask {α : Type} (w : World) (read : Host → α) (otherwise : α) :
    w.page.Spares (w.ask read otherwise).1.page := by
  unfold ask
  cases w.host with
  | none => exact .refl w.page
  | some host =>
    cases w.busy with
    | true => exact .note (.refl w.page) _ rfl
    | false => exact .refl w.page

section Steps

variable {take : World → Step → Ran}
  (spares : ∀ (w : World) (step : Step), w.page.Spares (take w step).world.page)

include spares

/-- Steps collapse no canvas if none of them does. -/
theorem spares_after (w : World) (steps : List Step) : w.page.Spares (after take w steps).page :=
  after_keeps (P := fun later => w.page.Spares later.page)
    (fun later step kept => kept.trans (spares later step)) w steps (.refl w.page)

/-- A post collapses no canvas if the steps of scripts do not. -/
theorem spares_post (w : World) (payload : PageValue) :
    w.page.Spares (w.post take payload).world.page := by
  rw [world_post]
  cases w.posting? with
  | none => exact .refl w.page
  | some found =>
    have begun : w.page.Spares (w.beginPost found.1 payload).page :=
      .trans (.note (.refl w.page) (.postMessage found.1 payload) rfl)
        (Page.spares_setPosting _ found.1 true)
    have ran := spares_after spares (w.beginPost found.1 payload) found.2.script.steps
    exact (begun.trans ran).trans (Page.spares_setPosting _ found.1 false)

/-- A request collapses no canvas if the steps of scripts do not. -/
theorem spares_requestFullscreen (w : World) :
    w.page.Spares (w.requestFullscreen take).world.page := by
  cases present : w.host with
  | none =>
    simp only [requestFullscreen, present]
    exact .refl w.page
  | some host =>
    cases busy : w.busy with
    | true =>
      simp only [requestFullscreen, present, busy]
      exact .note (.refl w.page) _ rfl
    | false =>
      rw [(requestFullscreen_eq take w host present busy).1]
      have begun : w.page.Spares (w.beginRequest host.parts.canvas).page :=
        .note (.refl w.page) _ rfl
      have ended : (w.beginRequest host.parts.canvas).page.Spares
          ((w.beginRequest host.parts.canvas).afterRequest take host.parts.canvas
            (w.requesting? host.parts.canvas)).page := by
        cases w.requesting? host.parts.canvas with
        | none => exact .refl _
        | some hook =>
          have entered := Page.spares_setRequesting (w.beginRequest host.parts.canvas).page
            host.parts.canvas true
          have ran := spares_after spares ((w.beginRequest host.parts.canvas).mapPage
            (·.setRequesting host.parts.canvas true)) hook.script.steps
          exact (entered.trans ran).trans (Page.spares_setRequesting _ host.parts.canvas false)
      have answered := begun.trans ended
      cases (w.refusal? host.parts.canvas).isSome <;> exact answered

/-- A call of the host collapses no canvas if the steps of scripts do not. -/
theorem spares_callHost (w : World) (call : HostCall) :
    w.page.Spares (w.callHost take call).world.page := by
  cases present : w.host with
  | none =>
    simp only [callHost, present]
    exact .refl w.page
  | some host =>
    unfold callHost
    rw [present]
    cases call with
    | attach id => exact w.spares_attach id
    | attachById id => exact w.spares_attachById id
    | detach => exact w.spares_detach
    | drop => exact w.spares_drop
    | handleMessage data => exact w.spares_receive data
    | postMessage payload => exact spares_post spares w payload
    | postCommand kind json =>
      change w.page.Spares (w.postCommand take kind json).world.page
      rw [world_postCommand]
      cases (HostCall.postCommand kind json).posted? with
      | none => exact .refl w.page
      | some payload => exact spares_post spares w payload
    | requestFullscreen => exact spares_requestFullscreen spares w
    | isSoft | stateText | statsText => exact w.spares_ask _ _
    | printError text =>
      have logged : w.page.Spares (w.logError ("[modhost] " ++ text)).page :=
        .note (.refl w.page) _ rfl
      exact logged.trans (spares_tell _ (.print text) trivial)
    | load => exact w.spares_reportLoad
    | error message => exact w.spares_reportError message
    | crash => exact w.spares_reportCrash none
    | enterSoft | leaveSoft | dependencies | status | print | loadStart | progress =>
      exact w.spares_tell _ trivial

/-- A step collapses no canvas if the steps of scripts do not. -/
theorem spares_takeWith (w : World) (step : Step) :
    w.page.Spares (takeWith take w step).world.page := by
  cases step with
  | fire target kind event => exact w.spares_fire target kind event
  | call call => exact spares_callHost spares w call
  | setProperty | onPostMessage | onRequestFullscreen =>
    exact w.page.spares_modify _ _ (fun _ => rfl) fun _ => rfl
  | setThrow | setFullscreenElement | setWindowSize | removeWindow =>
    exact Page.spares_of_elements rfl rfl

end Steps

/-- No step collapses a canvas, however deep its scripts nest. -/
theorem spares_take (depth : Nat) (w : World) (step : Step) :
    w.page.Spares (take depth w step).world.page := by
  induction depth generalizing w step with
  | zero => exact spares_takeWith (fun w _ => .refl w.page) w step
  | succ depth ih => exact spares_takeWith ih w step

/-- No steps collapse a canvas, whatever throws in between. -/
theorem spares_turns (depth : Nat) (w : World) (turns : List Turn) :
    w.page.Spares (turns.foldl (turn depth) w).page := by
  induction turns generalizing w with
  | nil => exact .refl w.page
  | cons first rest ih =>
    have changed : w.page.Spares (w.mapPage ({ · with throwing := first.throwing })).page :=
      Page.spares_of_elements rfl rfl
    exact (changed.trans (spares_take depth _ first.step)).trans (ih _)

end World

/-- A value that amounts to no pixel: no number at all, or one that is not a number, below zero, or
below one. -/
def PageValue.NoPixels (value : PageValue) : Prop :=
  match value.number?.map Decimal.parts with
  | none | some .nan => True
  | some (.infinite negative) => negative = true
  | some (.finite negative mantissa exponent) =>
    negative = true ∨ mantissa * Nat.pow 2 exponent.toNat < Nat.pow 2 (-exponent).toNat

/-- A window reports no pixel exactly if its value amounts to none. -/
theorem Page.pixels_eq_zero_iff (value : PageValue) : pixels value = 0 ↔ value.NoPixels := by
  unfold pixels PageValue.NoPixels
  cases value.number? with
  | none => exact ⟨fun _ => trivial, fun _ => rfl⟩
  | some x =>
    simp only [Decimal.truncateTo, Option.map_some]
    cases Decimal.parts x with
    | nan => exact ⟨fun _ => trivial, fun _ => rfl⟩
    | infinite negative => cases negative <;> decide
    | finite negative mantissa exponent =>
      -- Only the quotient matters from here on: it is zero exactly if the value is below one.
      have unit : 0 < Nat.pow 2 (-exponent).toNat := Nat.pow_pos (by decide)
      have below := Nat.div_eq_zero_iff_lt (x := mantissa * Nat.pow 2 exponent.toNat) unit
      dsimp only
      generalize mantissa * Nat.pow 2 exponent.toNat = value at below ⊢
      generalize Nat.pow 2 (-exponent).toNat = one at below ⊢
      generalize value / one = whole at below ⊢
      cases negative with
      | true =>
        have cut : (max 0 (min 0xffffffff (-(whole : Int)))).toNat = 0 := by omega
        simp only [↓reduceIte, cut, true_or, iff_true]
        rfl
      | false =>
        have cut : (max 0 (min 0xffffffff (whole : Int))).toNat = min 0xffffffff whole := by omega
        simp only [Bool.false_eq_true, ↓reduceIte, cut, false_or, ← below]
        constructor
        · intro zero
          have none := eq_zero_of_word (by unfold UInt32.size; omega) zero
          omega
        · intro none
          rw [none]
          rfl

/-- A window is empty exactly if it is not to be had, or one of its dimensions amounts to no pixel.
-/
theorem Page.windowSize_isEmpty_iff (page : Page) :
    page.windowSize.isEmpty = true ↔
      page.hasWindow = false ∨ (page.thrown? .window .inner).isSome = true ∨
        page.innerWidth.NoPixels ∨ page.innerHeight.NoPixels := by
  unfold windowSize
  cases page.hasWindow with
  | false => simp [Size.isEmpty]
  | true =>
    cases page.thrown? .window .inner with
    | some value => simp [Size.isEmpty]
    | none => simp [Size.isEmpty, pixels_eq_zero_iff]

open Recording (Operation)
open World (Turn turn)

/-- No canvas is collapsed. In a run whose messages are decoded ones every size that the canvas is
given is solid; the canvas has the last of them, all are counted, and a solid canvas stays solid. On
a page, whatever its window is, whatever steps are taken and whatever throws in between, every width
and height that a host writes is other than zero, and every solid canvas stays solid. A window gives
no size if it is not to be had, throws, or reports what is no number, not a number, negative or less
than one pixel. -/
theorem canvas_never_collapses (r : Recording) (operations : List Operation) (page : Page)
    (text : String) (depth : Nat) (turns : List Turn) :
    ((∀ operation ∈ operations, operation.Decodable) →
      (∀ size ∈ r.assigned operations, size.width ≠ 0 ∧ size.height ≠ 0) ∧
      (r.run operations).display.canvas = (r.assigned operations).getLastD r.display.canvas ∧
      (r.run operations).display.assignments =
        r.display.assignments + (r.assigned operations).length ∧
      (r.display.canvas.Solid → (r.run operations).display.canvas.Solid)) ∧
    (let w := turns.foldl (turn depth) (page.mount text).1
      ∃ written, w.page.trace = page.trace ++ written ∧
        (∀ id pixels, .width id pixels ∈ written ∨ .height id pixels ∈ written → pixels ≠ 0) ∧
        ∀ id, (page.canvasSize id).Solid → (w.page.canvasSize id).Solid) ∧
    (page.windowSize.isEmpty = true ↔
      page.hasWindow = false ∨ (page.thrown? .window .inner).isSome = true ∨
        page.innerWidth.NoPixels ∨ page.innerHeight.NoPixels) := by
  refine ⟨fun decodable => ?_, ?_, page.windowSize_isEmpty_iff⟩
  · obtain ⟨canvas, assignments⟩ := r.run_sizes operations
    refine ⟨fun size member => ?_, canvas, assignments, r.solid_run decodable⟩
    have solid := r.solid_assigned decodable size member
    exact ⟨solid.width, solid.height⟩
  · intro w
    have spares : page.Spares w.page :=
      (page.spares_mount text).trans (World.spares_turns depth _ turns)
    obtain ⟨written, trace, sparing⟩ := spares.traced
    refine ⟨written, trace, fun id pixels inside zero => ?_, spares.solid⟩
    rcases inside with width | height
    · exact sparing _ width (congrArg some zero)
    · exact sparing _ height (congrArg some zero)

/-- A canvas in an empty window is sized by a message while it is to fill the window, and gets back
the size it had. On a page whose window reports no number it keeps its size. -/
theorem canvas_never_collapses_empty_window :
    let r : Recording :=
      ⟨{ config := {}, transcript := {} }, { canvas := ⟨800, 600⟩, window := ⟨0, 1080⟩ }⟩
    let operations : List Operation :=
      [.signal .enterSoft, .signal (.dispatch (.resize ⟨640, 480⟩)), .signal .leaveSoft]
    let page : Page :=
      { elements := [{ id := "canvas", tag := .canvas, size := ⟨800, 600⟩ }]
        innerWidth := .number (0.0 / 0.0)
        innerHeight := .number 1080.0 }
    let w := [(⟨[], .call .enterSoft⟩ : Turn)].foldl (turn 0) (page.mount "").1
    (∀ operation ∈ operations, operation.Decodable) ∧
      r.assigned operations = [⟨640, 480⟩, ⟨800, 600⟩] ∧
      (∀ size ∈ r.assigned operations, size.width ≠ 0 ∧ size.height ≠ 0) ∧
      (page.canvasSize "canvas").Solid ∧ (w.page.canvasSize "canvas").Solid ∧
      page.windowSize.isEmpty = true := by
  intro r operations page w
  have message : Message.Decodable (.resize ⟨640, 480⟩) := by
    let payload := "\x7b\"msg\":\"resize\",\"w\":640,\"h\":480\x7d"
    have decoded : (decode .structured payload).toOption = some (.resize ⟨640, 480⟩) := by
      decide +kernel
    refine ⟨.structured, payload, ?_⟩
    cases result : decode .structured payload with
    | ok message =>
      rw [result] at decoded
      exact congrArg Except.ok (Option.some.inj decoded)
    | error error =>
      rw [result] at decoded
      contradiction
  have decodable : ∀ operation ∈ operations, operation.Decodable := by
    simpa [operations, Operation.Decodable, Signal.Decodable] using message
  have standing : (page.canvasSize "canvas").Solid := ⟨by decide, by decide⟩
  obtain ⟨sizes, ⟨written, -, -, kept⟩, empty⟩ := canvas_never_collapses r operations page "" 0
    [⟨[], .call .enterSoft⟩]
  exact ⟨decodable, rfl, (sizes decodable).1, standing, kept "canvas" standing,
    empty.mpr (Or.inr (Or.inr (Or.inl trivial)))⟩

end Embed
