import Embed.Proofs.Decoding
import Embed.Proofs.Numerals
import Embed.Proofs.Progression
import Embed.Proofs.Reentrance
/-!
# What a host tells of itself

A host tells the state of its module, and its counters, canvas and viewport, as JSON text. What such
a text shows is said of the value that it is read as, member by member, and one value shows one
state and one set of numbers; so equal texts come from equal hosts. A percentage is only known to be
there, since a double is not read back exactly. That it can be read at all holds of percentages, and
a host is never in another state of loading: whatever a page does with it, however deep its functions
call it, its module lives as that of a recording does.
-/

namespace Embed

namespace Json

/-- What an object has under a name when it was read: the last that was written there, made tidy. -/
theorem member?_tidy (members : List (String × Value)) (name : String) :
    (Value.object members).tidy.member? name = (tidyMembers members).reverse.lookup name :=
  lookup_gather (tidyMembers members) name

/-- An object of two members is one level deeper than they are. -/
theorem plain_pair {depth : Nat} {value other : Value} (first : Plain depth value)
    (second : Plain depth other) (key name : String) :
    Plain (depth + 1) (.object [(key, value), (name, other)]) := by
  refine .object fun member inside => ?_
  rcases List.mem_pair.mp inside with rfl | rfl
  · exact first
  · exact second

/-- Two members that are written in the wrong order change places. -/
theorem gather_swapped {first second : String} (before : first < second) (value other : Value) :
    gather [(second, other), (first, value)] = gather [(first, value), (second, other)] := by
  rw [gather_of_ascending (ascending_pair before value other)]
  exact if_pos before

end Json

/-- A record has a count under a name. -/
def HasCount (v : Json.Value) (name : String) (count : Nat) : Prop :=
  ∃ i, v.member? name = some (.number (.integer i)) ∧ i.val = count

/-- A record has one count under a name. -/
theorem HasCount.unique {v : Json.Value} {name : String} {count other : Nat}
    (first : HasCount v name count) (second : HasCount v name other) : count = other := by
  obtain ⟨i, found, value⟩ := first
  obtain ⟨j, again, same⟩ := second
  rw [found, Option.some.injEq, Json.Value.number.injEq, Json.Number.integer.injEq] at again
  rw [again, same] at value
  exact (Int.ofNat.inj value).symm

/-! ## States -/

namespace Lifecycle

/-- What a kind of state is called. -/
def Kind.name : Kind → String
  | .unloaded => "unloaded"
  | .loading => "loading"
  | .ready => "ready"
  | .errored => "errored"
  | .crashed => "crashed"

/-- No two kinds of states are called the same. -/
theorem Kind.name_injective : Function.Injective Kind.name := by
  intro first second
  cases first <;> cases second <;> decide

namespace State

/-- A value shows a state: it is an object that names its kind, and says why the load failed if it
did. -/
structure ShownBy (state : State) (v : Json.Value) : Prop where
  /-- It is an object. -/
  object : ∃ members, v = .object members
  /-- It names the kind. -/
  name : v.member? "state" = some (.string state.kind.name)
  /-- It has the message of a failed load, and none otherwise. -/
  message : v.member? "message" = state.message?.map .string

variable {state other : State} {v : Json.Value}

/-- One value shows one state, but for a percentage. -/
theorem ShownBy.unique (first : state.ShownBy v) (second : other.ShownBy v) :
    state.kind = other.kind ∧ state.message? = other.message? := by
  have names := first.name.symm.trans second.name
  have messages := first.message.symm.trans second.message
  rw [Option.some.injEq, Json.Value.string.injEq] at names
  refine ⟨Kind.name_injective names, ?_⟩
  exact Option.map_injective (fun _ _ same => Json.Value.string.inj same) messages

/-- A state that is not one of loading is known from its kind and its message. -/
theorem eq_of_kind (kinds : state.kind = other.kind) (messages : state.message? = other.message?)
    (settled : state.kind ≠ .loading) : state = other := by
  cases state <;> cases other <;> simp_all [kind, message?]

/-- The text of a percentage stands in the text of a state of loading. -/
theorem written_loading {percent : Float} (percentage : IsPercentage percent) :
    ∃ n, Json.Written (loading percent).toValue.render
      (.object [("state", .string "loading"), ("percent", .number n)]) := by
  let left : List Char := '"' :: ("percent".toList.flatMap Json.escapedChar ++
    '"' :: ':' :: ((Json.Number.double percent).chars ++ ['\x7d']))
  obtain ⟨n, digits⟩ := percentage.stands (Or.inr ⟨[], by simp⟩ : Json.Ends ['\x7d'])
  have last := Json.membersStand_member "percent" digits rfl (.close [])
  have ends : Json.Ends (',' :: left) := Or.inr ⟨left, by simp⟩
  have first := Json.membersStand_member "state"
    (Json.standsBack_string "loading" _ ends) (Json.nextKey_of_quote _) last
  refine ⟨n, [], ?_, rfl⟩
  have split : (loading percent).toValue.render.toList =
      '\x7b' :: '"' :: ("state".toList.flatMap Json.escapedChar ++
        '"' :: ':' :: ((Json.Value.string "loading").chars ++ ',' :: left)) := by
    rw [Json.Value.render, String.toList_ofList]
    simp [toValue, Json.Value.chars, Json.stringChars, Json.membersChars, left]
  rw [split]
  exact .object rfl rfl first

/-- A state other than one of loading has no number in its text. -/
theorem plain_toValue (settled : state.kind ≠ .loading) :
    Json.Plain Json.maxDepth state.toValue := by
  cases state with
  | loading => contradiction
  | unloaded | ready | crashed =>
    refine .object fun member inside => ?_
    rw [List.mem_singleton.mp inside]
    exact .string _
  | errored message => exact Json.plain_pair (.string _) (.string _) _ _

/-- The text of a state is read as a value that shows it, if what is said of a load is a
percentage. -/
theorem parse_toValue (state : State)
    (measured : ∀ percent, state = .loading percent → IsPercentage percent) :
    ∃ v, Json.parse state.toValue.render = .ok v ∧ state.ShownBy v := by
  cases state with
  | loading percent =>
    obtain ⟨n, written⟩ := written_loading (measured percent rfl)
    have reads : Json.Reads (Json.value Json.maxDepth)
        (.object [("state", .string "loading"), ("percent", .number n)]) := by
      refine Json.reads_object fun member inside => ?_
      rcases List.mem_pair.mp inside with rfl | rfl
      · exact Json.reads_string _ "loading"
      · exact Json.reads_number _ n
    exact ⟨_, Json.parse_of_written written reads, ⟨_, rfl⟩, Json.member?_tidy _ _,
      Json.member?_tidy _ _⟩
  | unloaded | ready | crashed | errored =>
    exact ⟨_, Json.parse_render (plain_toValue (by simp [kind])), ⟨_, rfl⟩, Json.member?_tidy _ _,
      Json.member?_tidy _ _⟩

/-- States other than those of loading are equal if their texts are: these are read as one value. -/
theorem render_toValue_inj (settled : state.kind ≠ .loading) (settled' : other.kind ≠ .loading) :
    state.toValue.render = other.toValue.render ↔ state = other := by
  refine ⟨fun same => ?_, fun same => by rw [same]⟩
  obtain ⟨v, read, shown⟩ := state.parse_toValue (fun percent loading => by
    rw [loading] at settled
    contradiction)
  obtain ⟨v', read', shown'⟩ := other.parse_toValue (fun percent loading => by
    rw [loading] at settled'
    contradiction)
  rw [same, read', Except.ok.injEq] at read
  rw [read] at shown'
  obtain ⟨kinds, messages⟩ := shown.unique shown'
  exact eq_of_kind kinds messages settled

end State

end Lifecycle

/-! ## Counters, canvas and viewport -/

/-- A value shows a size. -/
structure Size.ShownBy (size : Size) (v : Json.Value) : Prop where
  /-- It has the width. -/
  width : HasCount v "width" size.width.toNat
  /-- It has the height. -/
  height : HasCount v "height" size.height.toNat

/-- A value shows the presentation of a canvas. An awaited notification does not show. -/
structure Viewport.ShownBy (viewport : Viewport) (v : Json.Value) : Prop where
  /-- It names the mode. -/
  mode : v.member? "mode" = some (.string viewport.mode.name)
  /-- It has the size to give back, or a `null` exactly if there is none. -/
  saved : ∃ s, v.member? "saved" = some s ∧ (s = .null ↔ viewport.saved = none) ∧
    ∀ size, viewport.saved = some size → size.ShownBy s

/-- A value shows counters, canvas and viewport. -/
structure StatsShownBy (counters : Counters) (canvas : Size) (viewport : Viewport)
    (v : Json.Value) : Prop where
  /-- It is an object. -/
  object : ∃ members, v = .object members
  /-- It counts the messages that were carried out. -/
  handled : HasCount v "messagesHandled" counters.handled.toNat
  /-- It counts the messages of unknown kinds. -/
  unknown : HasCount v "unknownMessages" counters.unknown.toNat
  /-- It counts the payloads that were no message. -/
  decodeErrors : HasCount v "decodeErrors" counters.decodeErrors.toNat
  /-- It has the size of the canvas. -/
  canvas : ∃ c, v.member? "canvas" = some c ∧ canvas.ShownBy c
  /-- It has the viewport, which is also what the viewport's own text is read as. -/
  viewport : ∃ u, v.member? "viewport" = some u ∧ viewport.ShownBy u ∧
    Json.parse viewport.toValue.render = .ok u

/-- One value shows one size. -/
theorem Size.ShownBy.unique {size other : Size} {v : Json.Value} (first : size.ShownBy v)
    (second : other.ShownBy v) : size = other := by
  have widths := UInt32.toNat_inj.mp (first.width.unique second.width)
  have heights := UInt32.toNat_inj.mp (first.height.unique second.height)
  cases size
  cases other
  rw [Size.mk.injEq]
  exact ⟨widths, heights⟩

/-- No two modes have the same name. -/
theorem DisplayMode.name_injective : Function.Injective DisplayMode.name := by
  intro first second
  cases first <;> cases second <;> decide

/-- One value shows one mode and one size to give back. -/
theorem Viewport.ShownBy.unique {viewport other : Viewport} {v : Json.Value}
    (first : viewport.ShownBy v) (second : other.ShownBy v) :
    viewport.mode = other.mode ∧ viewport.saved = other.saved := by
  have names := first.mode.symm.trans second.mode
  rw [Option.some.injEq, Json.Value.string.injEq] at names
  refine ⟨DisplayMode.name_injective names, ?_⟩
  obtain ⟨s, found, absent, present⟩ := first.saved
  obtain ⟨t, again, absent', present'⟩ := second.saved
  obtain rfl : s = t := Option.some.inj (found.symm.trans again)
  cases kept : viewport.saved with
  | none => exact (absent'.mp (absent.mpr kept)).symm
  | some size =>
    cases kept' : other.saved with
    | none =>
      rw [absent.mp (absent'.mpr kept')] at kept
      contradiction
    | some size' => rw [(present size kept).unique (present' size' kept')]

/-- One value shows one set of counters, one canvas, one mode and one size to give back. -/
theorem StatsShownBy.unique {counters counters' : Counters} {canvas canvas' : Size}
    {viewport viewport' : Viewport} {v : Json.Value} (first : StatsShownBy counters canvas viewport v)
    (second : StatsShownBy counters' canvas' viewport' v) :
    counters = counters' ∧ canvas = canvas' ∧ viewport.mode = viewport'.mode ∧
      viewport.saved = viewport'.saved := by
  have handled := UInt64.toNat_inj.mp (first.handled.unique second.handled)
  have unknown := UInt64.toNat_inj.mp (first.unknown.unique second.unknown)
  have decodeErrors := UInt64.toNat_inj.mp (first.decodeErrors.unique second.decodeErrors)
  obtain ⟨c, found, size⟩ := first.canvas
  obtain ⟨d, again, size'⟩ := second.canvas
  obtain rfl : c = d := Option.some.inj (found.symm.trans again)
  obtain ⟨u, held, shown, -⟩ := first.viewport
  obtain ⟨t, held', shown', -⟩ := second.viewport
  obtain rfl : u = t := Option.some.inj (held.symm.trans held')
  cases counters
  cases counters'
  rw [Counters.mk.injEq]
  exact ⟨⟨handled, unknown, decodeErrors⟩, size.unique size', shown.unique shown'⟩

/-- Which of its sides comes first makes no difference to a size that is read. -/
theorem Size.tidy_toValue (size : Size) : size.toValue.tidy = size.sortedValue.tidy :=
  congrArg Json.Value.object (Json.gather_swapped (by decide) _ _)

/-- Which of its members comes first makes no difference to a viewport that is read. -/
theorem Viewport.tidy_toValue (viewport : Viewport) :
    viewport.toValue.tidy = viewport.sortedValue.tidy := by
  obtain ⟨saved, mode, pending⟩ := viewport
  have sizes : ((saved.map Size.toValue).getD .null).tidy =
      ((saved.map Size.sortedValue).getD .null).tidy := by
    cases saved with
    | none => rfl
    | some size => exact size.tidy_toValue
  have swapped := Json.gather_swapped (by decide : "mode" < "saved") (.string mode.name)
    ((saved.map Size.toValue).getD .null).tidy
  rw [sizes] at swapped
  simp only [toValue, sortedValue, Json.Value.tidy, Json.tidyMembers, sizes]
  rw [swapped]

/-- A size is read as a value that shows it. -/
theorem Size.shownBy_sortedValue (size : Size) : size.ShownBy size.sortedValue.tidy where
  width := ⟨.ofUInt32 size.width, Json.member?_tidy _ _, rfl⟩
  height := ⟨.ofUInt32 size.height, Json.member?_tidy _ _, rfl⟩

/-- A viewport is read as a value that shows it. -/
theorem Viewport.shownBy_sortedValue (viewport : Viewport) :
    viewport.ShownBy viewport.sortedValue.tidy where
  mode := Json.member?_tidy _ _
  saved := by
    refine ⟨((viewport.saved.map Size.sortedValue).getD .null).tidy, Json.member?_tidy _ _, ?_⟩
    cases viewport.saved with
    | none => exact ⟨⟨fun _ => rfl, fun _ => rfl⟩, fun size kept => by contradiction⟩
    | some size =>
      refine ⟨⟨fun null => by contradiction, fun none => by contradiction⟩, fun other kept => ?_⟩
      obtain rfl := Option.some.inj kept
      exact size.shownBy_sortedValue

/-- A size that may be missing is nested as one that is there. -/
theorem plain_saved {depth : Nat} {write : Size → Json.Value}
    (plain : ∀ size, Json.Plain (depth + 1) (write size)) (saved : Option Size) :
    Json.Plain (depth + 1) ((saved.map write).getD .null) := by
  cases saved with
  | none => exact .null
  | some size => exact plain size

/-- A size is nested once. -/
theorem Size.plain_toValue {depth : Nat} (size : Size) : Json.Plain (depth + 1) size.toValue :=
  Json.plain_pair (.integer _) (.integer _) _ _

/-- A size whose members are in the order of their names is nested once too. -/
theorem Size.plain_sortedValue {depth : Nat} (size : Size) :
    Json.Plain (depth + 1) size.sortedValue :=
  Json.plain_pair (.integer _) (.integer _) _ _

/-- The text of a viewport is read as it stands in the summary of a host. -/
theorem Viewport.parse_toValue (viewport : Viewport) :
    Json.parse viewport.toValue.render = .ok viewport.sortedValue.tidy := by
  have plain : Json.Plain Json.maxDepth viewport.toValue :=
    Json.plain_pair (plain_saved Size.plain_toValue viewport.saved) (.string _) _ _
  rw [Json.parse_render plain, viewport.tidy_toValue]

namespace Host

/-- The summary of a host has no numbers but integers in it. -/
theorem plain_statsValue (host : Host) (page : Page) :
    Json.Plain Json.maxDepth (host.statsValue page) := by
  refine .object fun member inside => ?_
  simp only [List.mem_cons, List.not_mem_nil, or_false] at inside
  rcases inside with rfl | rfl | rfl | rfl | rfl
  · exact Size.plain_sortedValue _
  · exact .integer _
  · exact .integer _
  · exact .integer _
  · exact Json.plain_pair (.string _) (plain_saved Size.plain_sortedValue _) _ _

/-- The summary of a host is read as a value that shows counters, canvas and viewport. -/
theorem parse_statsText (host : Host) (page : Page) :
    ∃ v, Json.parse (host.statsText page) = .ok v ∧
      StatsShownBy host.session.counters (page.canvasSize host.parts.canvas) host.session.viewport
        v := by
  refine ⟨_, Json.parse_render (host.plain_statsValue page), ?_⟩
  exact {
    object := ⟨_, rfl⟩
    handled := ⟨.ofUInt64 host.session.counters.handled, Json.member?_tidy _ _, rfl⟩
    unknown := ⟨.ofUInt64 host.session.counters.unknown, Json.member?_tidy _ _, rfl⟩
    decodeErrors := ⟨.ofUInt64 host.session.counters.decodeErrors, Json.member?_tidy _ _, rfl⟩
    canvas := ⟨_, Json.member?_tidy _ _, Size.shownBy_sortedValue _⟩
    viewport := ⟨_, Json.member?_tidy _ _, Viewport.shownBy_sortedValue _,
      Viewport.parse_toValue _⟩ }

/-- Hosts have equal summaries exactly if all that a summary shows is equal. -/
theorem statsText_inj {host host' : Host} {page page' : Page} :
    host.statsText page = host'.statsText page' ↔
      host.session.counters = host'.session.counters ∧
      page.canvasSize host.parts.canvas = page'.canvasSize host'.parts.canvas ∧
      host.session.viewport.mode = host'.session.viewport.mode ∧
      host.session.viewport.saved = host'.session.viewport.saved := by
  constructor
  · intro same
    obtain ⟨v, read, shown⟩ := host.parse_statsText page
    obtain ⟨v', read', shown'⟩ := host'.parse_statsText page'
    rw [same, read', Except.ok.injEq] at read
    rw [read] at shown'
    exact shown.unique shown'
  · rintro ⟨counters, canvas, mode, saved⟩
    unfold statsText statsValue Viewport.sortedValue
    dsimp only
    rw [counters, canvas, mode, saved]

end Host

/-! ## Worlds that come about -/

/-- The life of a host's module: its parts agree with one another, and what is said of a load is a
percentage. -/
structure Lifecycle.Measured (life : Lifecycle) : Prop where
  /-- The parts agree. -/
  coherent : life.Coherent
  /-- A load is as far as some percentage. -/
  percent : ∀ percent, life.state = .loading percent → IsPercentage percent

/-- A life of which nothing has happened yet. -/
theorem Lifecycle.measured_new : Lifecycle.Measured {} :=
  ⟨Lifecycle.coherent_new, fun _ loading => by contradiction⟩

/-- No event undoes it. -/
theorem Lifecycle.Measured.step {life : Lifecycle} (measured : life.Measured)
    (event : Lifecycle.Event) : (life.step event).1.Measured := by
  refine ⟨(life.step_moves event).coherent measured.coherent, fun percent loading => ?_⟩
  have advance := life.step_advances event
  rw [loading] at advance
  generalize before : life.state = state at advance
  generalize (life.step event).2.progress = written at advance
  -- A load that goes on was measured before, and one that begins or moves is measured then.
  cases advance with
  | stays => exact measured.percent percent before
  | writes stands valid =>
    obtain rfl := Option.some.inj stands
    exact valid
  | ticks => exact isPercentage_zero
  | fails terminal => contradiction

/-- No run undoes it. -/
theorem Lifecycle.Measured.run {r : Recording} (measured : r.session.lifecycle.Measured)
    (operations : List Recording.Operation) : (r.run operations).session.lifecycle.Measured :=
  Recording.run_lifecycle (fun _ event kept => kept.step event) r measured operations

namespace World

/-- A world comes about when a host is put on a page on which nothing listens, and from then on by
whatever steps are taken, at every moment of a call from which the page can take further ones. It is
marked from within a function for fullscreen on. -/
inductive Reached : Bool → World → Prop
  /-- A host was put on a page. -/
  | mount {page : Page} {text : String} (unheard : page.live = [])
      (mounted : (page.mount text).2 = none) : Reached false (page.mount text).1
  /-- Other calls throw from now on. -/
  | throwing {shielded : Bool} {w : World} (reached : Reached shielded w)
      (throwing : List ((Target × PageCall) × PageValue)) :
      Reached shielded (w.mapPage ({ · with throwing }))
  /-- A step was taken. -/
  | step {shielded : Bool} {w : World} (reached : Reached shielded w) (depth : Nat) (step : Step) :
      Reached shielded (take depth w step).world
  /-- A step runs a function of the page, whose steps come next. -/
  | within {shielded : Bool} {w : World} (reached : Reached shielded w) {step : Step}
      {frame : Frame} (runs : w.frame? step = some frame) :
      Reached (shielded || frame.requests) frame.world

/-- A world whose host is in the state of a recording, and in use if it is marked. -/
structure Recorded (shielded : Bool) (w : World) : Prop where
  /-- The host listens as it ought to. -/
  orderly : w.Orderly
  /-- The session is in use if the world is marked. -/
  busy : w.busy = shielded
  /-- There is such a recording. -/
  shown : ∃ r : Recording, w.Agrees r ∧ r.session.lifecycle.Measured

variable {shielded : Bool} {w w' : World}

/-- What has a journal leads from a recording to a recording. -/
theorem Recorded.of_replays {entries : List Entry} (recorded : Recorded shielded w)
    (replays : Replays shielded entries w w') : Recorded shielded w' := by
  obtain ⟨-, -, r, agrees, measured⟩ := recorded
  exact ⟨replays.orderly, replays.busy, _, (replays.agrees r agrees).1, measured.run _⟩

/-- The begin of a request only keeps the size of the canvas, and puts the session in use. -/
theorem Recorded.beginRequest {host : Host} (recorded : Recorded shielded w)
    (present : w.host = some host) : Recorded true (w.beginRequest host.parts.canvas) := by
  obtain ⟨orderly, -, r, agrees, measured⟩ := recorded
  exact ⟨orderly_of_standing (standing_beginRequest w _) orderly, rfl, r.beginRequest,
    agrees_beginRequest agrees present, measured⟩

/-- A function of the page begins in a world that is recorded. -/
theorem Recorded.within (recorded : Recorded shielded w) {step : Step} {frame : Frame}
    (runs : w.frame? step = some frame) : Recorded (shielded || frame.requests) frame.world := by
  unfold frame? at runs
  split at runs
  · split at runs
    · contradiction
    · obtain ⟨host, present, requests⟩ := Option.bind_eq_some_iff.mp runs
      obtain ⟨hook, -, rfl⟩ := Option.map_eq_some_iff.mp requests
      have begins := recorded.beginRequest present
      rw [Bool.or_true]
      exact begins.of_replays
        (replays_modify begins.orderly rfl _ _ (fun _ => rfl) (fun _ => rfl))
  · obtain ⟨payload, -, posts⟩ := Option.bind_eq_some_iff.mp runs
    obtain ⟨found, -, rfl⟩ := Option.map_eq_some_iff.mp posts
    rw [Bool.or_false]
    exact recorded.of_replays (replays_beginPost recorded.orderly recorded.busy found.1 payload)
  · contradiction

/-- Every world that comes about is recorded. -/
theorem Reached.recorded (reached : Reached shielded w) : Recorded shielded w := by
  induction reached with
  | mount unheard mounted =>
    obtain ⟨config, -, parsed, -, -, -, free, -⟩ := Page.mount_succeeded unheard mounted
    exact ⟨orderly_mount unheard _, free, _, agrees_mount unheard mounted parsed Display.standard,
      Lifecycle.measured_new⟩
  | throwing _ throwing ih =>
    exact ih.of_replays (replays_mapPage ih.orderly ih.busy _ rfl rfl)
  | step _ depth step ih => exact ih.of_replays (replays_take depth _ _ step ih.orderly ih.busy)
  | within _ runs ih => exact ih.within runs

/-- What is said of a host's module in a world that came about. -/
theorem Recorded.measured {host : Host} (recorded : Recorded shielded w)
    (present : w.host = some host) : host.session.lifecycle.Measured := by
  obtain ⟨-, -, r, agrees, measured⟩ := recorded
  rw [(agrees host present).session]
  exact measured

/-! ## Texts -/

/-- A question is answered by the host, unless its session is in use. -/
theorem ask_of_present {α : Type} {host : Host} (present : w.host = some host) (read : Host → α)
    (otherwise : α) : (w.ask read otherwise).2 = if w.busy then otherwise else read host := by
  unfold ask
  rw [present]
  cases w.busy <;> rfl

/-- What comes of asking for the state of the module. -/
theorem result_stateText {host : Host} (present : w.host = some host) (depth : Nat) :
    (take depth w (.call .stateText)).result =
      .text (if w.busy then "\x7b\x7d" else host.stateText) := by
  rw [← ask_of_present present]
  cases depth <;> simp only [take, takeWith, callHost, present]

/-- What comes of asking for counters, canvas and viewport. -/
theorem result_statsText {host : Host} (present : w.host = some host) (depth : Nat) :
    (take depth w (.call .statsText)).result =
      .text (if w.busy then "\x7b\x7d" else host.statsText w.page) := by
  rw [← ask_of_present present (·.statsText w.page)]
  cases depth <;> simp only [take, takeWith, callHost, present]

/-- What a host tells of itself is faithful. Its texts are read as values that show the state of its
module, with the message that was kept of a failed load, and its counters, canvas and viewport; only
from within a function for fullscreen, while its session is in use, it tells nothing. So of two hosts
whose sessions are free, and whose modules are not loading, the states are equal exactly if the
texts are, and likewise all that the summaries show. -/
theorem summaries_read_back {shielded : Bool} {w w' : World} (reached : Reached shielded w)
    {host host' : Host} (present : w.host = some host) (present' : w'.host = some host')
    (depth depth' : Nat) :
    let stateText := (take depth w (.call .stateText)).result
    let stateText' := (take depth' w' (.call .stateText)).result
    let statsText := (take depth w (.call .statsText)).result
    let statsText' := (take depth' w' (.call .statsText)).result
    let life := host.session.lifecycle
    let life' := host'.session.lifecycle
    let canvas := w.page.canvasSize host.parts.canvas
    let canvas' := w'.page.canvasSize host'.parts.canvas
    w.busy = shielded ∧
    (w.busy = true → stateText = .text "\x7b\x7d" ∧ statsText = .text "\x7b\x7d") ∧
    (w.busy = false →
      (∃ text v, stateText = .text text ∧ Json.parse text = .ok v ∧ life.state.ShownBy v) ∧
      life.lastError = life.state.message? ∧
      ∃ text v, statsText = .text text ∧ Json.parse text = .ok v ∧
        StatsShownBy host.session.counters canvas host.session.viewport v) ∧
    (w.busy = false → w'.busy = false →
      (life.state.kind ≠ .loading → life'.state.kind ≠ .loading →
        (stateText = stateText' ↔ life.state = life'.state)) ∧
      (statsText = statsText' ↔
        host.session.counters = host'.session.counters ∧ canvas = canvas' ∧
        host.session.viewport.mode = host'.session.viewport.mode ∧
        host.session.viewport.saved = host'.session.viewport.saved)) := by
  intro stateText stateText' statsText statsText' life life' canvas canvas'
  have state : stateText = _ := result_stateText present depth
  have stats : statsText = _ := result_statsText present depth
  have recorded := reached.recorded
  have measured := recorded.measured present
  refine ⟨recorded.busy, fun used => ?_, fun free => ?_, fun free free' => ?_⟩
  · rw [used] at state stats
    exact ⟨state, stats⟩
  · rw [free] at state stats
    obtain ⟨v, read, shown⟩ := life.state.parse_toValue measured.percent
    obtain ⟨u, summary, shows⟩ := host.parse_statsText w.page
    exact ⟨⟨_, v, state, read, shown⟩, measured.coherent.error, _, u, stats, summary, shows⟩
  · have state' : stateText' = _ := result_stateText present' depth'
    have stats' : statsText' = _ := result_statsText present' depth'
    rw [free] at state stats
    rw [free'] at state' stats'
    rw [state, state', stats, stats', Result.text.injEq, Result.text.injEq]
    exact ⟨Lifecycle.State.render_toValue_inj, Host.statsText_inj⟩

/-- A load that failed with all kinds of characters in its message, and one that has not begun. -/
theorem summaries_read_back_quoted :
    let page : Page :=
      { elements := [{ id := "canvas", tag := .canvas }]
        innerWidth := .undefined
        innerHeight := .undefined }
    let message := "\"quoted\" \\ back\n\x01é😀"
    let w' := (page.mount "").1
    let w := (take 0 w' (.call (.error message))).world
    page.live = [] ∧ (page.mount "").2 = none ∧ w.host.isSome ∧ w'.host.isSome ∧
      (take 1 w (.call .stateText)).result ≠ (take 1 w' (.call .stateText)).result ∧
      ∃ text v, (take 1 w (.call .stateText)).result = .text text ∧ Json.parse text = .ok v ∧
        v.member? "message" = some (.string message) := by
  intro page message w' w
  have begun : Reached false w' := .mount rfl rfl
  have reached : Reached false w := begun.step 0 (.call (.error message))
  obtain ⟨host, present, failed⟩ : ∃ host, w.host = some host ∧
      host.session.lifecycle.state = .errored message := ⟨_, rfl, rfl⟩
  obtain ⟨host', present', idle⟩ : ∃ host, w'.host = some host ∧
      host.session.lifecycle.state = .unloaded := ⟨_, rfl, rfl⟩
  obtain ⟨-, -, read, apart⟩ := summaries_read_back reached present present' 1 1
  obtain ⟨⟨text, v, told, parsed, shown⟩, -⟩ := read rfl
  have states := (apart rfl rfl).1 (by rw [failed]; simp [Lifecycle.State.kind])
    (by rw [idle]; simp [Lifecycle.State.kind])
  refine ⟨rfl, rfl, by rw [present]; rfl, by rw [present']; rfl, fun same => ?_, text, v, told,
    parsed, ?_⟩
  · have both := states.mp same
    rw [failed, idle] at both
    exact absurd both (by simp)
  · rw [shown.message, failed]
    rfl

end World

end Embed
