import Embed.Page.Basic
import Embed.Session
/-!
# The parts of a page that a host drives

Which elements of the page are the canvas, the spinner and so on is settled once. An element that is
missing, or cannot do what its part demands, is left out, and its effects with it; only the canvas is
indispensable.
-/

namespace Embed

/-- The ids of the elements that were found. -/
structure Parts where
  /-- The canvas. -/
  canvas : String
  /-- The spinner. -/
  spinner : Option String
  /-- The output. -/
  output : Option String
  /-- The status line. -/
  status : Option String
  /-- The progress bar. -/
  progress : Option String
  deriving DecidableEq, Repr

/-- Looks an optional element up. One that is not there is reported. -/
def Page.lookUp (page : Page) (id : Option String) : Page × Option Element :=
  match id with
  | none => (page, none)
  | some id =>
    match page.element? id with
    | some e => (page, some e)
    | none => (page.log ("[modhost] element '" ++ id ++ "' not found, skipping"), none)

/-- The canvas of a page. -/
def Page.findCanvas (page : Page) (id : String) : Except Failure String :=
  if page.hasWindow && page.hasDocument then
    match page.element? id with
    | none => .error (.platform ("canvas '" ++ id ++ "' not found"))
    | some e =>
      if e.tag = .canvas then .ok id
      else .error (.platform ("'" ++ id ++ "' is not a canvas"))
  else .error (.platform "no document")

/-- Whether an element has a style. -/
def Element.isStyled (e : Element) : Bool :=
  e.tag != .foreign

/-- Whether an element is a progress bar. -/
def Element.isProgressBar (e : Element) : Bool :=
  e.tag == .progressBar

/-- The id of an element that was found and can do its part. -/
def Element.idIf (fits : Element → Bool) (found : Option Element) : Option String :=
  (found.filter fits).map (·.id)

/-- Finds the parts of a page around its canvas. A progress bar is made to end at 100. -/
def Page.findParts (page : Page) (canvas : String) (ids : ElementIds) : Page × Parts :=
  let (page, spinner) := page.lookUp ids.spinner
  let (page, output) := page.lookUp ids.output
  let (page, status) := page.lookUp ids.status
  let (page, progress) := page.lookUp ids.progress
  let parts : Parts :=
    { canvas
      spinner := Element.idIf Element.isStyled spinner
      output := Element.idIf Element.isStyled output
      status := Element.idIf (fun _ => true) status
      progress := Element.idIf Element.isProgressBar progress }
  match parts.progress with
  | some id => (page.note (.progressMax id completePercent), parts)
  | none => (page, parts)

namespace Parts

/-- The element that shows a surface. -/
def surface? (parts : Parts) : Surface → Option String
  | .spinner => parts.spinner
  | .canvas => some parts.canvas
  | .output => parts.output

end Parts

/-- The name of a surface in reports. -/
def Surface.name : Surface → String
  | .spinner => "Spinner"
  | .canvas => "Canvas"
  | .output => "Output"

/-- A text without the line breaks at its end. -/
def withoutLineBreaks (text : String) : String :=
  String.ofList (text.toList.reverse.dropWhile (· == '\n')).reverse

namespace Page

/-- Shows or hides a surface, if the page has it. What goes wrong is reported. -/
def toggle (page : Page) (parts : Parts) (surface : Surface) (shown : Bool) : Page :=
  match parts.surface? surface with
  | none => page
  | some id =>
    match page.setShown id shown with
    | .ok page' => page'
    | .error value =>
      page.log ("[modhost] failed to toggle " ++ surface.name ++ ": " ++ value.describe)

/-- Carries out an effect. Output goes to the console as well if it is echoed. -/
def apply (page : Page) (parts : Parts) (echo : Bool) : Effect → Page
  | .output piece text =>
    let page := if echo then page.log (withoutLineBreaks piece) else page
    match parts.output with
    | some id => page.showText id text
    | none => page
  | .visible surface shown => page.toggle parts surface shown
  | .canvas size => page.setCanvasSize parts.canvas size
  | .status text =>
    match parts.status with
    | some id => page.setText id text
    | none => page
  | .progress percent =>
    match parts.progress with
    | some id => page.note (.progress id percent)
    | none => page

/-- Carries out effects in order. -/
def applyAll (page : Page) (parts : Parts) (echo : Bool) (effects : List Effect) : Page :=
  effects.foldl (fun page effect => page.apply parts echo effect) page

end Page

end Embed
