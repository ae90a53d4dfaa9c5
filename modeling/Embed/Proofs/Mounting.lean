import Embed.Proofs.Listeners
/-!
# Putting a host on a page

A host is put on a page in one go: the configuration is read, the canvas is found, the other parts
are looked up, and the listeners on document and window are added. When any of that fails there is
no host and nothing listens; when all of it succeeds, the page has changed by two listeners and by
what was traced.
-/

namespace Embed.Page

/-- Looking an element up only traces. -/
theorem untraced_lookUp (page : Page) (id : Option String) :
    (page.lookUp id).1.untraced = page.untraced := by
  unfold lookUp
  cases id with
  | none => rfl
  | some id =>
    dsimp only
    cases page.element? id <;> rfl

/-- Finding the parts of a page only traces, and takes the canvas as it is given. -/
theorem findParts_eq (page : Page) (canvas : String) (ids : ElementIds) :
    (page.findParts canvas ids).1.untraced = page.untraced ∧
      (page.findParts canvas ids).2.canvas = canvas := by
  have traced : (((((page.lookUp ids.spinner).1.lookUp ids.output).1.lookUp ids.status).1).lookUp
      ids.progress).1.untraced = page.untraced := by
    rw [untraced_lookUp, untraced_lookUp, untraced_lookUp, untraced_lookUp]
  dsimp only [findParts]
  split
  · exact ⟨traced, rfl⟩
  · exact ⟨traced, rfl⟩

/-- A canvas that is found is on the page, under the id that was looked for. -/
theorem findCanvas_eq_ok {page : Page} {id canvas : String} (found : page.findCanvas id = .ok canvas) :
    canvas = id ∧ (page.element? id).isSome := by
  unfold findCanvas at found
  split at found
  · split at found
    · contradiction
    · rename_i e present
      split at found
      · obtain rfl := Except.ok.inj found
        exact ⟨rfl, by rw [present]; rfl⟩
      · contradiction
  · contradiction

/-- Letting go of listeners leaves the elements alone. -/
theorem elements_dropListeners (page : Page) (held : List (Target × EventKind)) :
    (page.dropListeners held).elements = page.elements := by
  induction held generalizing page with
  | nil => rfl
  | cons first rest ih =>
    change ((page.dropListener first.1 first.2).dropListeners rest).elements = _
    rw [ih]
    unfold dropListener
    split <;> rfl

/-- Adding listeners leaves the elements alone. -/
theorem elements_addListeners (page : Page) (held rest : List (Target × EventKind)) :
    (page.addListeners held rest).1.elements = page.elements := by
  induction rest generalizing page held with
  | nil => rfl
  | cons first rest ih =>
    obtain ⟨target, kind⟩ := first
    unfold addListeners addListener
    cases page.thrown? target (.add kind) with
    | some value => exact elements_dropListeners page held
    | none => exact ih _ _

/-- The listeners on document and window are added to a page on which nothing listens, or nothing
listens on it. -/
theorem live_listened {page : Page} (unheard : page.live = []) (canvas : String) (ids : ElementIds) :
    let listened := (page.findParts canvas ids).1.addListeners [] Host.pageListeners
    listened.1.live = (if listened.2.isSome then [] else Host.pageListeners) ∧
      listened.1.elements = page.elements := by
  intro listened
  have traced := (findParts_eq page canvas ids).1
  have heard : (page.findParts canvas ids).1.live = [] ++ [] :=
    (congrArg live traced).trans unheard
  have elements := congrArg Page.elements traced
  change (page.findParts canvas ids).1.elements = page.elements at elements
  constructor
  · exact live_addListeners _ [] [] Host.pageListeners heard (by simp)
  · exact (elements_addListeners _ [] Host.pageListeners).trans elements

/-- Nothing listens on a page on which a host could not be put, and there is no host. -/
theorem mount_failed {page : Page} {text : String} (unheard : page.live = [])
    (failed : (page.mount text).2.isSome) :
    (page.mount text).1.host = none ∧ (page.mount text).1.page.live = [] := by
  cases parsed : Config.parse text with
  | error e =>
    simp only [mount, parsed]
    exact ⟨trivial, unheard⟩
  | ok config =>
    cases looked : page.findCanvas config.elements.canvas with
    | error failure =>
      simp only [mount, parsed, looked]
      exact ⟨trivial, unheard⟩
    | ok canvas =>
      have listened := (live_listened unheard canvas config.elements).1
      simp only [mount, parsed, looked] at failed ⊢
      cases outcome : (page.findParts canvas config.elements).1.addListeners [] Host.pageListeners with
      | mk page' raised =>
        simp only [outcome] at failed listened ⊢
        cases raised with
        | none => simp at failed
        | some value => exact ⟨rfl, by simpa using listened⟩

/-- A host that could be put on a page drives the canvas that is configured, begins a session, and
is attached to nothing; the elements are as before, and only the host listens. -/
theorem mount_succeeded {page : Page} {text : String} (unheard : page.live = [])
    (mounted : (page.mount text).2 = none) :
    ∃ config parts, Config.parse text = .ok config ∧ parts.canvas = config.elements.canvas ∧
      (page.element? config.elements.canvas).isSome ∧
      (page.mount text).1.host = some { parts, session := .new config } ∧
      (page.mount text).1.busy = false ∧
      (page.mount text).1.page.elements = page.elements ∧
      (page.mount text).1.page.live = Host.pageListeners := by
  cases parsed : Config.parse text with
  | error e => simp [mount, parsed] at mounted
  | ok config =>
    cases looked : page.findCanvas config.elements.canvas with
    | error failure => simp [mount, parsed, looked] at mounted
    | ok canvas =>
      obtain ⟨rfl, present⟩ := findCanvas_eq_ok looked
      obtain ⟨live, elements⟩ := live_listened unheard config.elements.canvas config.elements
      have same := (findParts_eq page config.elements.canvas config.elements).2
      simp only [mount, parsed, looked] at mounted ⊢
      cases outcome : (page.findParts config.elements.canvas config.elements).1.addListeners []
        Host.pageListeners with
      | mk page' raised =>
        simp only [outcome] at mounted live elements ⊢
        cases raised with
        | some value => simp at mounted
        | none =>
          exact ⟨config, _, rfl, same, present, rfl, rfl, elements, by simpa using live⟩

end Embed.Page
