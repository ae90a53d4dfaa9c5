import Embed.Host.Run
import Embed.Proofs.Page
/-!
# Which listeners are live

A host holds listeners and remembers only which element is attached; which listeners it holds is
written nowhere. The law that ties the two together is that the live listeners of the page are, in
their order, the two on document and window and then the six on the attached element. Adding may
fail half way and removing may throw, but a listener that could not be removed is no longer live, so
the law survives every order of attaching, failing, detaching and giving up the host.
-/

namespace Embed

/-- What the live listeners of a list listen for, in their order. -/
def Listener.heard (listeners : List Listener) : List (Target × EventKind) :=
  (listeners.filter (·.live)).map fun l => (l.target, l.kind)

/-- What the live listeners of a page listen for, in the order in which they were added. -/
def Page.live (page : Page) : List (Target × EventKind) :=
  Listener.heard page.listeners

namespace Listener

/-- A live listener is the first that is heard. -/
theorem heard_cons_of_live {l : Listener} (live : l.live = true) (rest : List Listener) :
    heard (l :: rest) = (l.target, l.kind) :: heard rest := by
  simp [heard, live]

/-- A listener that is not live is not heard. -/
theorem heard_cons_of_silent {l : Listener} (silent : l.live = false) (rest : List Listener) :
    heard (l :: rest) = heard rest := by
  simp [heard, silent]

/-- A listener is the live one for a target and a kind exactly when it is live and for these. -/
theorem listensFor_iff (target : Target) (kind : EventKind) (l : Listener) :
    Page.listensFor target kind l = true ↔ l.live = true ∧ (l.target, l.kind) = (target, kind) := by
  simp [Page.listensFor, and_assoc]

/-- Removing the first live listener for a target and a kind takes it from what is heard. -/
theorem heard_eraseP (target : Target) (kind : EventKind) (listeners : List Listener) :
    heard (listeners.eraseP (Page.listensFor target kind)) =
      (heard listeners).erase (target, kind) := by
  induction listeners with
  | nil => rfl
  | cons l rest ih =>
    cases live : l.live with
    | true =>
      by_cases same : (l.target, l.kind) = (target, kind)
      · rw [List.eraseP_cons_of_pos ((listensFor_iff target kind l).mpr ⟨live, same⟩),
          heard_cons_of_live live, same, List.erase_cons_head]
      · have other : ¬ Page.listensFor target kind l = true :=
          fun listens => same ((listensFor_iff target kind l).mp listens).2
        rw [List.eraseP_cons_of_neg other, heard_cons_of_live live, heard_cons_of_live live, ih,
          List.erase_cons_tail (by simpa using same)]
    | false =>
      have other : ¬ Page.listensFor target kind l = true := by
        rw [listensFor_iff, live]
        simp
      rw [List.eraseP_cons_of_neg other, heard_cons_of_silent live, heard_cons_of_silent live, ih]

/-- Silencing the first live listener for a target and a kind takes it from what is heard. -/
theorem heard_silence (target : Target) (kind : EventKind) (listeners : List Listener) :
    heard (Page.silence target kind listeners) = (heard listeners).erase (target, kind) := by
  induction listeners with
  | nil => rfl
  | cons l rest ih =>
    unfold Page.silence
    by_cases listens : Page.listensFor target kind l = true
    · obtain ⟨live, same⟩ := (listensFor_iff target kind l).mp listens
      rw [if_pos listens, heard_cons_of_silent rfl, heard_cons_of_live live, same,
        List.erase_cons_head]
    · rw [if_neg listens]
      cases live : l.live with
      | true =>
        have different : (l.target, l.kind) ≠ (target, kind) :=
          fun same => listens ((listensFor_iff target kind l).mpr ⟨live, same⟩)
        rw [heard_cons_of_live live, heard_cons_of_live live, ih,
          List.erase_cons_tail (by simpa using different)]
      | false => rw [heard_cons_of_silent live, heard_cons_of_silent live, ih]

end Listener

namespace Page

/-- A line on the console leaves the live listeners alone. -/
@[simp]
theorem live_log (page : Page) (line : String) : (page.log line).live = page.live := rfl

/-- A listener that could be added is the last that is heard. -/
theorem live_addListener {page page' : Page} {target : Target} {kind : EventKind}
    (added : page.addListener target kind = .ok page') :
    page'.live = page.live ++ [(target, kind)] := by
  unfold addListener at added
  split at added
  · contradiction
  · obtain rfl := Except.ok.inj added
    simp [live, Listener.heard, note]

/-- Letting go of a listener takes it from what is heard, whether or not the removal throws. -/
theorem live_dropListener (page : Page) (target : Target) (kind : EventKind) :
    (page.dropListener target kind).live = page.live.erase (target, kind) := by
  unfold dropListener
  cases page.thrown? target (.remove kind) with
  | none => exact Listener.heard_eraseP target kind page.listeners
  | some value => exact Listener.heard_silence target kind page.listeners

/-- Letting go of listeners takes them from what is heard, one after the other. -/
theorem live_dropListeners (page : Page) (held : List (Target × EventKind)) :
    (page.dropListeners held).live = held.foldl List.erase page.live := by
  induction held generalizing page with
  | nil => rfl
  | cons first rest ih =>
    change ((page.dropListener first.1 first.2).dropListeners rest).live = _
    rw [ih, live_dropListener]
    rfl

/-- Taking away what was put behind other things leaves these. -/
theorem foldl_erase_append (base held : List (Target × EventKind))
    (apart : ∀ entry ∈ held, entry ∉ base) : held.foldl List.erase (base ++ held) = base := by
  induction held with
  | nil => simp
  | cons first rest ih =>
    have missing : first ∉ base := apart first List.mem_cons_self
    rw [List.foldl_cons, List.erase_append_right _ missing, List.erase_cons_head]
    exact ih fun entry member => apart entry (List.mem_cons_of_mem first member)

/-- Listeners that could all be added are the last that are heard; when one could not, none of them
is heard. -/
theorem live_addListeners (page : Page) (base held rest : List (Target × EventKind))
    (heard : page.live = base ++ held) (apart : ∀ entry ∈ held ++ rest, entry ∉ base) :
    (page.addListeners held rest).1.live =
      if (page.addListeners held rest).2.isSome then base else base ++ held ++ rest := by
  induction rest generalizing page held with
  | nil => simp [addListeners, heard]
  | cons first rest ih =>
    obtain ⟨target, kind⟩ := first
    unfold addListeners
    cases attempt : page.addListener target kind with
    | error value =>
      change (page.dropListeners held).live = base
      rw [live_dropListeners, heard]
      exact foldl_erase_append base held
        fun entry member => apart entry (List.mem_append_left _ member)
    | ok page' =>
      have longer : page'.live = base ++ (held ++ [(target, kind)]) := by
        rw [live_addListener attempt, heard, List.append_assoc]
      have after := ih page' (held ++ [(target, kind)]) longer (by simpa using apart)
      simpa using after

/-- Letting go of a listener does not change which calls throw. -/
theorem thrown?_dropListener (page : Page) (target : Target) (kind : EventKind) (on : Target)
    (call : PageCall) : (page.dropListener target kind).thrown? on call = page.thrown? on call := by
  unfold dropListener
  cases page.thrown? target (.remove kind) <;> rfl

/-- Letting go of listeners does not change which calls throw. -/
theorem thrown?_dropListeners (page : Page) (held : List (Target × EventKind)) (on : Target)
    (call : PageCall) : (page.dropListeners held).thrown? on call = page.thrown? on call := by
  induction held generalizing page with
  | nil => rfl
  | cons first rest ih =>
    change ((page.dropListener first.1 first.2).dropListeners rest).thrown? on call = _
    rw [ih, thrown?_dropListener]

/-- Adding listeners fails with what the first addition that throws throws. -/
theorem addListeners_of_thrown (page : Page) (held earlier later : List (Target × EventKind))
    (target : Target) (kind : EventKind) (value : PageValue)
    (quiet : ∀ entry ∈ earlier, page.thrown? entry.1 (.add entry.2) = none)
    (throws : page.thrown? target (.add kind) = some value) :
    (page.addListeners held (earlier ++ (target, kind) :: later)).2 = some value := by
  induction earlier generalizing page held with
  | nil => simp [addListeners, addListener, throws]
  | cons first rest ih =>
    have silent := quiet first List.mem_cons_self
    obtain ⟨on, event⟩ := first
    simp only [List.cons_append, addListeners, addListener, silent]
    apply ih
    · intro entry member
      exact quiet entry (List.mem_cons_of_mem _ member)
    · exact throws

/-- There are as many listeners for a kind of event on a target as are heard. -/
theorem length_listenersFor (page : Page) (target : Target) (kind : EventKind) :
    (page.listenersFor target kind).length = page.live.count (target, kind) := by
  unfold listenersFor live
  induction page.listeners with
  | nil => rfl
  | cons l rest ih =>
    cases live : l.live with
    | true =>
      by_cases same : (l.target, l.kind) = (target, kind)
      · rw [List.filter_cons_of_pos ((Listener.listensFor_iff target kind l).mpr ⟨live, same⟩),
          Listener.heard_cons_of_live live, same, List.length_cons, List.count_cons_self, ih]
      · have other : ¬ listensFor target kind l = true :=
          fun listens => same ((Listener.listensFor_iff target kind l).mp listens).2
        rw [List.filter_cons_of_neg other, Listener.heard_cons_of_live live,
          List.count_cons_of_ne same, ih]
    | false =>
      have other : ¬ listensFor target kind l = true := by
        rw [Listener.listensFor_iff, live]
        simp
      rw [List.filter_cons_of_neg other, Listener.heard_cons_of_silent live, ih]

end Page

end Embed
