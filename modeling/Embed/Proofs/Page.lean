import Embed.Host.Parts
import Embed.Proofs.Recording
/-!
# What carrying out effects does to a page

A page that carries out the effects of a session changes in two places only: its trace grows, and
its canvas takes a size. All else on the page, which the laws call its settings, stays as it is.
-/

namespace Embed.Page

/-- A page without its elements and its trace. -/
def settings (page : Page) : Page :=
  { page with elements := [], trace := [] }

/-- Equal settings have equal listeners. -/
theorem listeners_of_settings {page page' : Page} (same : page'.settings = page.settings) :
    page'.listeners = page.listeners := by
  have listeners := congrArg Page.listeners same
  exact listeners

/-- A page whose canvas takes a size, if there is one. -/
def sized (page : Page) (canvas : String) : Option Size → Page
  | some size => page.modify canvas fun e => { e with size }
  | none => page

/-- Showing or hiding a surface only traces. -/
theorem untraced_toggle (page : Page) (parts : Parts) (surface : Surface) (shown : Bool) :
    (page.toggle parts surface shown).untraced = page.untraced := by
  unfold toggle
  cases parts.surface? surface with
  | none => rfl
  | some id =>
    simp only [setShown]
    cases page.thrown? (.element id) .style <;> rfl

/-- An effect gives the canvas the size that it says, and otherwise only traces. -/
theorem untraced_apply (page : Page) (parts : Parts) (echo : Bool) (effect : Effect) :
    (page.apply parts echo effect).untraced =
      (page.sized parts.canvas effect.canvas?).untraced := by
  cases effect with
  | output piece text =>
    simp only [apply]
    cases echo <;> cases parts.output <;> rfl
  | visible surface shown => exact untraced_toggle page parts surface shown
  | canvas size => rfl
  | status text =>
    simp only [apply]
    cases parts.status <;> rfl
  | progress percent =>
    simp only [apply]
    cases parts.progress <;> rfl

/-- Effects give the canvas the sizes that they say, one after the other, and otherwise only trace.
-/
theorem untraced_applyAll (page : Page) (parts : Parts) (echo : Bool) (effects : List Effect) :
    (page.applyAll parts echo effects).untraced =
      effects.foldl (fun page effect => page.sized parts.canvas effect.canvas?) page.untraced := by
  induction effects generalizing page with
  | nil => rfl
  | cons effect effects ih =>
    have untracedFirst : (page.sized parts.canvas effect.canvas?).untraced =
        page.untraced.sized parts.canvas effect.canvas? := by
      cases effect.canvas? <;> rfl
    change ((page.apply parts echo effect).applyAll parts echo effects).untraced = _
    rw [ih, untraced_apply, untracedFirst]
    rfl

/-- An effect leaves the settings alone. -/
theorem settings_apply (page : Page) (parts : Parts) (echo : Bool) (effect : Effect) :
    (page.apply parts echo effect).settings = page.settings := by
  have same := congrArg settings (untraced_apply page parts echo effect)
  change (page.apply parts echo effect).settings =
    (page.sized parts.canvas effect.canvas?).settings at same
  rw [same]
  cases effect.canvas? <;> rfl

/-- Effects leave the settings alone. -/
@[simp]
theorem settings_applyAll (page : Page) (parts : Parts) (echo : Bool) (effects : List Effect) :
    (page.applyAll parts echo effects).settings = page.settings := by
  induction effects generalizing page with
  | nil => rfl
  | cons effect effects ih =>
    change ((page.apply parts echo effect).applyAll parts echo effects).settings = _
    rw [ih, settings_apply]

/-- A change of an element that keeps its id reaches what is found under an id only if it is the
element changed. -/
theorem element?_modify (page : Page) (id other : String) (f : Element → Element)
    (stable : ∀ e, (f e).id = e.id) :
    (page.modify id f).element? other =
      (page.element? other).map fun e => if e.id = id then f e else e := by
  have lookup : ((fun e : Element => e.id == other) ∘ fun e => if e.id = id then f e else e) =
      fun e => e.id == other := by
    funext e
    simp only [Function.comp]
    split <;> simp [stable]
  unfold element? modify
  rw [List.find?_map, lookup]

/-- A change of elements that keeps ids and sizes keeps the size of every canvas. -/
theorem canvasSize_modify (page : Page) (id canvas : String) (f : Element → Element)
    (stable : ∀ e, (f e).id = e.id) (size : ∀ e, (f e).size = e.size) :
    (page.modify id f).canvasSize canvas = page.canvasSize canvas := by
  unfold canvasSize
  rw [element?_modify page id canvas f stable]
  cases page.element? canvas with
  | none => rfl
  | some e =>
    simp only [Option.map_some]
    split <;> simp [size]

/-- A canvas on the page is still there after any change of elements that keeps ids. -/
theorem isSome_element?_modify (page : Page) (id other : String) (f : Element → Element)
    (stable : ∀ e, (f e).id = e.id) :
    ((page.modify id f).element? other).isSome = (page.element? other).isSome := by
  rw [element?_modify page id other f stable, Option.isSome_map]

/-- A canvas on the page takes the size it is given. -/
theorem canvasSize_sized (page : Page) (canvas : String) (size : Option Size)
    (present : (page.element? canvas).isSome) :
    (page.sized canvas size).canvasSize canvas = size.getD (page.canvasSize canvas) := by
  cases size with
  | none => rfl
  | some size =>
    obtain ⟨e, found⟩ := Option.isSome_iff_exists.mp present
    have id : e.id = canvas := by simpa using List.find?_some found
    have after := element?_modify page canvas canvas (fun e => { e with size }) fun _ => rfl
    rw [found] at after
    simp only [canvasSize, sized, after, Option.map_some, if_pos id, Option.getD_some]

/-- The elements found on a page do not go by giving one of them a size. -/
theorem isSome_element?_sized (page : Page) (canvas other : String) (size : Option Size) :
    ((page.sized canvas size).element? other).isSome = (page.element? other).isSome := by
  cases size with
  | none => rfl
  | some size => exact isSome_element?_modify page canvas other _ fun _ => rfl

/-- The elements found on a page do not go by carrying out effects. -/
@[simp]
theorem isSome_element?_applyAll (page : Page) (parts : Parts) (echo : Bool) (effects : List Effect)
    (id : String) :
    ((page.applyAll parts echo effects).element? id).isSome = (page.element? id).isSome := by
  induction effects generalizing page with
  | nil => rfl
  | cons effect effects ih =>
    have same := congrArg (fun page => (page.element? id).isSome)
      (untraced_apply page parts echo effect)
    change ((page.apply parts echo effect).applyAll parts echo effects |>.element? id).isSome = _
    rw [ih]
    exact same.trans (isSome_element?_sized page parts.canvas id effect.canvas?)

/-- The canvas of a page takes the size that the effects say. -/
theorem canvasSize_applyAll (page : Page) (parts : Parts) (echo : Bool) (effects : List Effect)
    (present : (page.element? parts.canvas).isSome) :
    (page.applyAll parts echo effects).canvasSize parts.canvas =
      Effect.canvasAfter effects (page.canvasSize parts.canvas) := by
  induction effects generalizing page with
  | nil => rfl
  | cons effect effects ih =>
    have still : ((page.apply parts echo effect).element? parts.canvas).isSome := by
      have kept := isSome_element?_applyAll page parts echo [effect] parts.canvas
      exact kept.trans present
    have first : (page.apply parts echo effect).canvasSize parts.canvas =
        effect.canvas?.getD (page.canvasSize parts.canvas) := by
      have same := congrArg (fun page => page.canvasSize parts.canvas)
        (untraced_apply page parts echo effect)
      exact same.trans (canvasSize_sized page parts.canvas effect.canvas? present)
    change ((page.apply parts echo effect).applyAll parts echo effects).canvasSize _ = _
    rw [ih _ still, first]
    rfl

end Embed.Page
