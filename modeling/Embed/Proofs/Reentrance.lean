import Embed.Proofs.Journal
/-!
# Calls from within calls

While the platform is asked for fullscreen the session is in use, and what the page demands of it in
the meantime is dropped. While a message is posted the session is free, and what is demanded then
counts as it does anywhere else. So a run in which functions of the page call the host, and are
called by it, to any depth, leaves the host where the flat run of its journal leaves a recording.

That is carried by one relation between two worlds and the journal between them. It holds of every
kind of step, a call of a function included if it holds of the function's steps, and it composes.
-/

namespace Embed.World

/-- What a journal says of the way from one world to another. Both are in use alike, and the journal
leads what agrees with the one to what agrees with the other. -/
structure Replays (shielded : Bool) (entries : List Entry) (w w' : World) : Prop where
  /-- The host still listens as it ought to. -/
  orderly : w'.Orderly
  /-- The session is in use if it was. -/
  busy : w'.busy = shielded
  /-- A recording in which the journal is done still agrees, and has answered all demands. -/
  agrees : ∀ r, w.Agrees r → w'.Agrees (r.replay entries) ∧ r.Answers entries
  /-- While the session is in use, all demands are made from within a function for fullscreen. -/
  shields : shielded = true → ∀ e ∈ entries, e.shielded
  /-- The host is gone only if it was given up. -/
  drops : w.host.isSome → w'.host = none → ∃ e ∈ entries, e.demand = .drop

variable {w w' : World} {shielded : Bool}

/-- A signal does not change whether the session is in use. -/
theorem busy_inform (w : World) (signal : Signal) : (w.inform signal).busy = w.busy := by
  unfold inform tell
  cases w.host with
  | none => rfl
  | some host =>
    cases busy : w.busy with
    | true => exact busy
    | false => rfl

/-- What leaves the attachment alone does not take the host away. -/
theorem isSome_host_of_standing (same : w'.standing = w.standing) :
    w'.host.isSome = w.host.isSome := by
  have attached : (w'.host.map (·.attached)).isSome = (w.host.map (·.attached)).isSome :=
    congrArg (fun standing => standing.2.isSome) same
  rw [Option.isSome_map, Option.isSome_map] at attached
  exact attached

/-- What leaves the attachment alone finds the host gone only if it was. -/
theorem host_eq_none_of_standing (same : w'.standing = w.standing) (gone : w'.host = none) :
    w.host = none := by
  have kept := isSome_host_of_standing same
  rw [gone] at kept
  cases found : w.host with
  | none => rfl
  | some host =>
    rw [found] at kept
    contradiction

/-- What demands nothing has an empty journal. -/
theorem replays_idle (orderly : w'.Orderly) (busy : w'.busy = shielded)
    (agrees : ∀ r, w.Agrees r → w'.Agrees r) (hosted : w.host.isSome → w'.host.isSome) :
    Replays shielded [] w w' where
  orderly := orderly
  busy := busy
  agrees := fun r shown => ⟨agrees r shown, .nil r⟩
  shields := fun _ e member => absurd member List.not_mem_nil
  drops := fun present gone => by
    have kept := hosted present
    rw [gone] at kept
    contradiction

/-- Where nothing happens, the journal is empty. -/
theorem replays_refl (orderly : w.Orderly) (busy : w.busy = shielded) :
    Replays shielded [] w w :=
  replays_idle orderly busy (fun _ agrees => agrees) (fun present => present)

/-- What demands one thing has a journal of one entry. -/
theorem replays_entry {demand : Demand} {result : Result} (orderly : w'.Orderly)
    (busy : w'.busy = shielded)
    (agrees : ∀ r, w.Agrees r →
      w'.Agrees (r.run (w.entry shielded demand result).operations) ∧
        (w.entry shielded demand result).AnsweredBy r)
    (hosted : w.host.isSome → w'.host = none → demand = .drop) :
    Replays shielded [w.entry shielded demand result] w w' where
  orderly := orderly
  busy := busy
  agrees := fun r shown => by
    obtain ⟨kept, answered⟩ := agrees r shown
    rw [Recording.replay_cons]
    exact ⟨kept, .cons answered (.nil _)⟩
  shields := fun used e member => by
    rw [List.mem_singleton.mp member]
    exact used
  drops := fun present gone => ⟨_, List.mem_singleton_self _, hosted present gone⟩

/-- Journals compose. -/
theorem Replays.append {first second : List Entry} {w₁ w₂ : World}
    (begins : Replays shielded first w w₁) (ends : Replays shielded second w₁ w₂) :
    Replays shielded (first ++ second) w w₂ where
  orderly := ends.orderly
  busy := ends.busy
  agrees := fun r shown => by
    obtain ⟨midway, answers⟩ := begins.agrees r shown
    obtain ⟨kept, others⟩ := ends.agrees _ midway
    rw [Recording.replay_append]
    exact ⟨kept, Recording.answers_append answers others⟩
  shields := fun used e member => by
    rcases List.mem_append.mp member with early | late
    · exact begins.shields used e early
    · exact ends.shields used e late
  drops := fun present gone => by
    cases found : w₁.host with
    | none =>
      obtain ⟨e, member, dropped⟩ := begins.drops present found
      exact ⟨e, List.mem_append_left _ member, dropped⟩
    | some host =>
      obtain ⟨e, member, dropped⟩ := ends.drops (by rw [found]; rfl) gone
      exact ⟨e, List.mem_append_right _ member, dropped⟩

/-- What leaves listeners, attachment and agreement alone, and the session in use or free, has an
empty journal. -/
theorem replays_aside (orderly : w.Orderly) (busy : w.busy = shielded)
    (same : w'.standing = w.standing) (used : w'.busy = w.busy)
    (agrees : ∀ r, w.Agrees r → w'.Agrees r) : Replays shielded [] w w' := by
  apply replays_idle (orderly_of_standing same orderly) (used.trans busy) agrees
  intro present
  rw [isSome_host_of_standing same]
  exact present

/-- A change of the page besides its elements and listeners has an empty journal. -/
theorem replays_mapPage (orderly : w.Orderly) (busy : w.busy = shielded) (f : Page → Page)
    (listeners : (f w.page).listeners = w.page.listeners)
    (elements : (f w.page).elements = w.page.elements) :
    Replays shielded [] w (w.mapPage f) := by
  have same : (w.mapPage f).standing = w.standing :=
    congrArg (fun listeners => (listeners, w.host.map (·.attached))) listeners
  refine replays_aside orderly busy same rfl fun r agrees => ?_
  exact agrees_of_elements elements (fun host found => ⟨host, found, rfl, rfl⟩) agrees

/-- A change of an element that keeps its id and its size has an empty journal. -/
theorem replays_modify (orderly : w.Orderly) (busy : w.busy = shielded) (id : String)
    (f : Element → Element) (stable : ∀ e, (f e).id = e.id) (size : ∀ e, (f e).size = e.size) :
    Replays shielded [] w (w.mapPage (·.modify id f)) := by
  refine replays_aside orderly busy rfl rfl fun r agrees => ?_
  exact agrees_modify agrees id f stable size

/-- What tells the session something, and otherwise only traces, has a journal that says so. -/
theorem replays_tell (orderly : w.Orderly) (busy : w.busy = shielded) (signal : Signal)
    (same : w'.untraced = (w.inform signal).untraced) :
    Replays shielded [w.entry shielded (.tell signal) .done] w w' := by
  have standing := (standing_of_untraced same).trans (standing_inform w signal)
  have used : w'.busy = w.busy := by
    have both := congrArg World.busy same
    exact both.trans (busy_inform w signal)
  apply replays_entry (orderly_of_standing standing orderly) (used.trans busy)
  · intro r agrees
    refine ⟨agrees_of_untraced same ?_, rfl⟩
    cases shielded with
    | true => exact agrees_of_untraced (untraced_inform_of_busy w signal busy) agrees
    | false => exact agrees_inform (agrees_prepared agrees _ _) busy signal rfl
  · intro present gone
    rw [host_eq_none_of_standing standing gone] at present
    contradiction

/-- What tells the session something, if there is something to tell, has a journal that says so. -/
theorem replays_told (orderly : w.Orderly) (busy : w.busy = shielded) (signal : Option Signal)
    (same : w'.untraced = (w.told signal).untraced) :
    Replays shielded
      ((signal.map Demand.tell).map fun demand => w.entry shielded demand .done).toList w w' := by
  cases signal with
  | some signal => exact replays_tell orderly busy signal same
  | none =>
    have used := congrArg World.busy same
    exact replays_aside orderly busy (standing_of_untraced same) used
      fun r agrees => agrees_of_untraced same agrees

/-- A question has a journal that says so. It is answered by the host if the session is free, and
goes without an answer otherwise. -/
theorem replays_ask {α : Type} {host : Host} (orderly : w.Orderly) (busy : w.busy = shielded)
    (present : w.host = some host) (read : Host → α) (otherwise : α) (result : α → Result)
    (demand : Demand) (asks : demand.operation? = none)
    (free : ∀ r, host.Shows w.page r → (w.entry false demand (result (read host))).AnsweredBy r)
    (used : ∀ r, (w.entry true demand (result otherwise)).AnsweredBy r) :
    Replays shielded [w.entry shielded demand (result (w.ask read otherwise).2)] w
      (w.ask read otherwise).1 := by
  have idle : ∀ result, (w.entry shielded demand result).operations = [] := by
    intro result
    unfold Entry.operations entry
    simp only [asks, ite_self]
  cases shielded with
  | true =>
    have skipped : w.ask read otherwise =
        (w.log "[modhost] Bridge busy, skipping read", otherwise) := by
      unfold ask
      rw [present, busy]
      rfl
    rw [skipped]
    refine replays_entry (orderly_of_standing rfl orderly) busy ?_ ?_
    · intro r agrees
      rw [idle]
      exact ⟨agrees_of_untraced (untraced_log w _) agrees, used r⟩
    · intro _ gone
      exact absurd (present.symm.trans gone) (by simp)
  | false =>
    have answered : w.ask read otherwise = (w, read host) := by
      unfold ask
      rw [present, busy]
      rfl
    rw [answered]
    refine replays_entry orderly busy ?_ ?_
    · intro r agrees
      rw [idle]
      exact ⟨agrees, free r (agrees host present)⟩
    · intro _ gone
      exact absurd (present.symm.trans gone) (by simp)

/-- Detaching demands nothing of the session. -/
theorem replays_detach {host : Host} (orderly : w.Orderly) (busy : w.busy = shielded)
    (present : w.host = some host) : Replays shielded [] w w.detach := by
  obtain ⟨used, elements, hosts⟩ := detach_kept w
  refine replays_idle (orderly_detach orderly) (used.trans busy)
    (fun r agrees => agrees_of_elements elements hosts agrees) fun _ => ?_
  rw [(detach_eq orderly present).1]
  rfl

/-- Attaching demands nothing of the session, whether it succeeds or fails. -/
theorem replays_attach {host : Host} (orderly : w.Orderly) (busy : w.busy = shielded)
    (present : w.host = some host) (id : String) : Replays shielded [] w (w.attach id).1 := by
  obtain ⟨used, elements, hosts⟩ := attach_kept w id
  refine replays_idle (orderly_attach orderly id) (used.trans busy)
    (fun r agrees => agrees_of_elements elements hosts agrees) fun _ => ?_
  rcases attach_cases orderly present id with ⟨-, kept, -⟩ | ⟨_, -, kept, -⟩
  · rw [kept]
    rfl
  · rw [kept]
    rfl

/-- Attaching what has to be looked up changes nothing of the session. -/
theorem replays_attachById {host : Host} (orderly : w.Orderly) (busy : w.busy = shielded)
    (present : w.host = some host) (id : String) : Replays shielded [] w (w.attachById id).1 := by
  unfold attachById
  rw [present]
  dsimp only
  split
  · exact replays_mapPage orderly busy (·.log _) rfl rfl
  · split
    · exact replays_attach orderly busy present id
    · exact replays_refl orderly busy

/-- Giving up the host is one demand. -/
theorem replays_drop {host : Host} (orderly : w.Orderly) (busy : w.busy = shielded)
    (present : w.host = some host) :
    Replays shielded [w.entry shielded .drop .done] w w.drop := by
  have used : w.drop.busy = w.busy := by
    unfold drop
    rw [present]
  refine replays_entry (orderly_drop orderly) (used.trans busy) (fun r _ => ⟨?_, rfl⟩)
    fun _ _ => rfl
  intro host' found
  rw [(live_drop orderly).2] at found
  contradiction

/-- The answer of the platform is the same in words. -/
theorem refusalText?_eq {host : Host} (present : w.host = some host) :
    w.refusalText? = (w.refusal? host.parts.canvas).map PageValue.describe := by
  unfold refusalText?
  rw [present]
  rfl

/-- A request that meets the session in use fails, and does nothing else. -/
theorem replays_request_of_busy {host : Host} {take : World → Step → Ran} (orderly : w.Orderly)
    (busy : w.busy = true) (present : w.host = some host) :
    Replays true [w.entry true .request (w.requestFullscreen take).result] w
      (w.requestFullscreen take).world := by
  have refused : w.requestFullscreen take =
      { world := w.log "[modhost] Bridge busy, dropping re-entrant event"
        result := .refused (Failure.platform "bridge busy").message } := by
    unfold requestFullscreen
    rw [present, busy]
    rfl
  rw [refused]
  refine replays_entry (orderly_of_standing rfl orderly) busy ?_ ?_
  · intro r agrees
    exact ⟨agrees_of_untraced (untraced_log w _) agrees, rfl⟩
  · intro _ gone
    exact absurd (present.symm.trans gone) (by simp)

/-- A request that meets the session free is one demand. Those made from within the function that it
runs are dropped, so that it ends as if none had been made. -/
theorem replays_request_of_free {host : Host} {take : World → Step → Ran} {nested : List Entry}
    (busy : w.busy = false) (present : w.host = some host)
    (inner : Replays true nested (w.beginRequest host.parts.canvas)
      ((w.beginRequest host.parts.canvas).afterRequest take host.parts.canvas
        (w.requesting? host.parts.canvas))) :
    Replays false (w.entry false .request (w.requestFullscreen take).result :: nested) w
      (w.requestFullscreen take).world := by
  obtain ⟨world, result⟩ := requestFullscreen_eq take w host present busy
  have words := refusalText?_eq present
  have shields := inner.shields rfl
  rw [world]
  refine ⟨orderly_of_standing (standing_endRequest _ _) inner.orderly, ?_, ?_, ?_, ?_⟩
  · cases (w.refusal? host.parts.canvas).isSome <;> rfl
  · intro r agrees
    -- The function runs against the session that has kept the size. Its journal is all marked, so
    -- the recording it leaves is the one it began with, whatever it demanded.
    obtain ⟨midway, answers⟩ := inner.agrees _ (agrees_beginRequest agrees present)
    rw [Recording.replay_of_shielded shields] at midway
    have refused : (w.refusal? host.parts.canvas).isSome = w.refusalText?.isSome := by
      rw [words, Option.isSome_map]
    have answered : (w.entry false .request (w.requestFullscreen take).result).AnsweredBy r := by
      unfold Entry.AnsweredBy entry
      dsimp only
      rw [result, words]
      cases w.refusal? host.parts.canvas <;> rfl
    rw [Recording.replay_cons, Recording.replay_of_shielded shields, refused]
    exact ⟨agrees_endRequest midway _ _,
      .cons answered (Recording.answers_of_shielded _ shields answers)⟩
  · intro used
    contradiction
  · intro _ gone
    have absent := host_eq_none_of_standing (standing_endRequest _ _) gone
    have held : (w.beginRequest host.parts.canvas).host.isSome := by
      rw [isSome_host_of_standing (standing_beginRequest w _), present]
      rfl
    obtain ⟨e, member, dropped⟩ := inner.drops held absent
    exact ⟨e, List.mem_cons_of_mem _ member, dropped⟩

/-- The begin of a post demands nothing. -/
theorem replays_beginPost (orderly : w.Orderly) (busy : w.busy = shielded) (id : String)
    (payload : PageValue) : Replays shielded [] w (w.beginPost id payload) := by
  have noted : Replays shielded [] w (w.mapPage (·.note (.postMessage id payload))) :=
    replays_mapPage orderly busy _ rfl rfl
  exact noted.append (replays_modify noted.orderly noted.busy id _ (fun _ => rfl) (fun _ => rfl))

section Steps

variable {take : World → Step → Ran} {journal : Bool → World → Step → List Entry}
  (replays : ∀ shielded w step, w.Orderly → w.busy = shielded →
    Replays shielded (journal shielded w step) w (take w step).world)

include replays

/-- The journal of steps tells their way. -/
theorem replays_after (orderly : w.Orderly) (busy : w.busy = shielded) (steps : List Step) :
    Replays shielded (journalAll take (journal shielded) w steps) w (after take w steps) := by
  induction steps generalizing w with
  | nil => exact replays_refl orderly busy
  | cons step rest ih =>
    have first := replays shielded w step orderly busy
    exact first.append (ih first.orderly first.busy)

/-- The journal of an element's function for messages tells the way of a post. -/
theorem replays_post (orderly : w.Orderly) (busy : w.busy = shielded) (id : String) (hook : Hook)
    (payload : PageValue) :
    Replays shielded (journalAll take (journal shielded) (w.beginPost id payload) hook.script.steps)
      w ((after take (w.beginPost id payload) hook.script.steps).endPost id) := by
  have begins := replays_beginPost orderly busy id payload
  have runs := replays_after replays begins.orderly begins.busy hook.script.steps
  have ends : Replays shielded [] (after take (w.beginPost id payload) hook.script.steps)
      ((after take (w.beginPost id payload) hook.script.steps).endPost id) :=
    replays_modify runs.orderly runs.busy id _ (fun _ => rfl) (fun _ => rfl)
  simpa using (begins.append runs).append ends

/-- The journal of the canvas's function for fullscreen tells the way from the begin of a request to
the answer of the platform. -/
theorem replays_afterRequest (orderly : w.Orderly) (busy : w.busy = true) (canvas : String)
    (hook? : Option Hook) :
    Replays true
      (journalFrame take journal true (hook?.map fun hook =>
        { requests := true
          world := w.mapPage (·.setRequesting canvas true)
          steps := hook.script.steps }))
      w (w.afterRequest take canvas hook?) := by
  cases hook? with
  | none => exact replays_refl orderly busy
  | some hook =>
    have begins : Replays true [] w (w.mapPage (·.setRequesting canvas true)) :=
      replays_modify orderly busy canvas _ (fun _ => rfl) (fun _ => rfl)
    have runs := replays_after replays begins.orderly begins.busy hook.script.steps
    have ends : Replays true []
        (after take (w.mapPage (·.setRequesting canvas true)) hook.script.steps)
        (w.afterRequest take canvas (some hook)) :=
      replays_modify runs.orderly runs.busy canvas _ (fun _ => rfl) (fun _ => rfl)
    have whole := (begins.append runs).append ends
    rw [List.nil_append, List.append_nil] at whole
    exact whole

/-- A post demands nothing itself. What is demanded in the function that it runs counts. -/
theorem replays_posted (orderly : w.Orderly) (busy : w.busy = shielded) (call : HostCall)
    {payload : PageValue} (posts : call.posted? = some payload) :
    Replays shielded (journalFrame take journal shielded (w.frame? (.call call))) w
      (w.post take payload).world := by
  have frame : w.frame? (.call call) = w.posting?.map fun found =>
      { requests := false
        world := w.beginPost found.1 payload
        steps := found.2.script.steps } := by
    cases call with
    | postMessage | postCommand => simp only [frame?, posts, Option.bind_some]
    | _ => contradiction
  rw [frame, world_post]
  cases w.posting? with
  | none => exact replays_refl orderly busy
  | some found =>
    have runs := replays_post replays orderly busy found.1 found.2 payload
    simp only [journalFrame, Option.map_some, Bool.or_false]
    exact runs

/-- A request has a journal that tells its way, whether it meets the session in use or free. -/
theorem replays_requested {host : Host} (orderly : w.Orderly) (busy : w.busy = shielded)
    (present : w.host = some host) :
    Replays shielded
      (w.entry shielded .request (w.requestFullscreen take).result ::
        journalFrame take journal shielded (w.frame? (.call .requestFullscreen)))
      w (w.requestFullscreen take).world := by
  cases shielded with
  | true =>
    have frame : w.frame? (.call .requestFullscreen) = none := by
      unfold frame?
      rw [busy]
      rfl
    rw [frame]
    exact replays_request_of_busy orderly busy present
  | false =>
    have begins : (w.beginRequest host.parts.canvas).Orderly :=
      orderly_of_standing (standing_beginRequest w _) orderly
    have frame : journalFrame take journal false (w.frame? (.call .requestFullscreen)) =
        journalFrame take journal true ((w.requesting? host.parts.canvas).map fun hook =>
          { requests := true
            world := (w.beginRequest host.parts.canvas).mapPage
              (·.setRequesting host.parts.canvas true)
            steps := hook.script.steps }) := by
      simp only [frame?, busy, present, Bool.false_eq_true, ↓reduceIte, Option.bind_some]
      cases w.requesting? host.parts.canvas <;> rfl
    rw [frame]
    exact replays_request_of_free busy present
      (replays_afterRequest replays begins rfl host.parts.canvas _)

/-- A call of the host has a journal that tells its way. -/
theorem replays_callHost (orderly : w.Orderly) (busy : w.busy = shielded) (call : HostCall) :
    Replays shielded (journalWith take journal shielded w (.call call)) w
      (w.callHost take call).world := by
  cases present : w.host with
  | none =>
    have silent : journalWith take journal shielded w (.call call) = [] := by
      unfold journalWith demand?
      rw [frame?_of_absent present, present]
      rfl
    rw [silent]
    unfold callHost
    rw [present]
    exact replays_refl orderly busy
  | some host =>
    rw [journalWith_call take journal shielded present]
    cases reports : call.signal? with
    | some signal =>
      obtain ⟨demand, result, frame⟩ := report_demand take w reports
      rw [demand, result, frame]
      exact replays_tell orderly busy signal (untraced_callHost take w call signal reports)
    | none =>
      unfold callHost
      rw [present]
      cases call with
      | attach id => exact replays_attach orderly busy present id
      | attachById id => exact replays_attachById orderly busy present id
      | detach => exact replays_detach orderly busy present
      | drop => exact replays_drop orderly busy present
      | postMessage payload => exact replays_posted replays orderly busy (.postMessage payload) rfl
      | postCommand kind json =>
        change Replays shielded (journalFrame take journal shielded _) w
          (w.postCommand take kind json).world
        rw [world_postCommand]
        cases posts : (HostCall.postCommand kind json).posted? with
        | some payload => exact replays_posted replays orderly busy _ posts
        | none =>
          simp only [frame?, posts, Option.bind_none, journalFrame]
          exact replays_refl orderly busy
      | requestFullscreen => exact replays_requested replays orderly busy present
      | isSoft =>
        apply replays_ask orderly busy present (·.session.viewport.isSoft) false .truth .askSoft rfl
        · intro r shows
          exact congrArg (fun session => Result.truth session.viewport.isSoft) shows.session
        · exact fun _ => rfl
      | stateText =>
        apply replays_ask orderly busy present (·.stateText) "\x7b\x7d" .text .askState rfl
        · intro r shows
          exact congrArg (fun session => Result.text session.lifecycle.state.toValue.render)
            shows.session
        · exact fun _ => rfl
      | statsText =>
        apply replays_ask orderly busy present (·.statsText w.page) "\x7b\x7d" .text .askStats rfl
        · exact fun r shows => ⟨host, w.page, shows, rfl⟩
        · exact fun _ => rfl
      | handleMessage data =>
        have silent : (HostCall.handleMessage data).demand? = none :=
          congrArg (Option.map Demand.tell) reports
        rw [silent]
        exact replays_told orderly busy none (untraced_receive_of_unreadable w reports)
      | enterSoft | leaveSoft | dependencies | status | print | printError | loadStart | progress
      | load | error | crash => contradiction

/-- A step has a journal that tells its way. -/
theorem replays_takeWith (orderly : w.Orderly) (busy : w.busy = shielded) (step : Step) :
    Replays shielded (journalWith take journal shielded w step) w
      (takeWith take w step).world := by
  cases step with
  | fire target kind event =>
    let demand : Option Demand :=
      if (target, kind) ∈ w.listening then (w.signal? target kind event).map .tell else none
    change Replays shielded ((demand.map fun demand => w.entry shielded demand .done).toList ++ [])
      w (w.fire target kind event)
    rw [List.append_nil, fire_of_orderly orderly]
    by_cases listens : (target, kind) ∈ w.listening
    · have heard : demand = (w.signal? target kind event).map .tell := if_pos listens
      rw [if_pos listens, heard]
      exact replays_told orderly busy _ (untraced_handle w target kind event)
    · have unheard : demand = none := if_neg listens
      rw [if_neg listens, unheard]
      exact replays_refl orderly busy
  | call call => exact replays_callHost replays orderly busy call
  | setProperty id name value =>
    exact replays_modify orderly busy id _ (fun _ => rfl) (fun _ => rfl)
  | onPostMessage id script | onRequestFullscreen id script =>
    exact replays_modify orderly busy id _ (fun _ => rfl) (fun _ => rfl)
  | setThrow target call value =>
    exact replays_mapPage orderly busy
      (fun page => { page with throwing := ((target, call), value) :: page.throwing }) rfl rfl
  | setFullscreenElement id =>
    exact replays_mapPage orderly busy ({ · with fullscreenElement := id }) rfl rfl
  | setWindowSize width height =>
    exact replays_mapPage orderly busy ({ · with innerWidth := width, innerHeight := height })
      rfl rfl
  | removeWindow =>
    exact replays_mapPage orderly busy ({ · with hasWindow := false }) rfl rfl

end Steps

/-- Every step has a journal that tells its way, however deep its scripts nest. -/
theorem replays_take (depth : Nat) (shielded : Bool) (w : World) (step : Step)
    (orderly : w.Orderly) (busy : w.busy = shielded) :
    Replays shielded (journal depth shielded w step) w (take depth w step).world := by
  -- The bound falls with each call of a function, so the steps of a function are those of the
  -- induction hypothesis, whether they are marked or not.
  induction depth generalizing shielded w step with
  | zero =>
    refine replays_takeWith (fun shielded w _ orderly busy => ?_) orderly busy step
    exact replays_refl orderly busy
  | succ depth ih => exact replays_takeWith ih orderly busy step

/-- A host on a page whose functions call it while they run, to any depth. Its journal, read without
what was demanded from within functions for fullscreen, is a flat list of operations. As long as
nobody gives it up, the host ends in the state in which a recording ends that does these one after
the other, and its canvas has the size that the recorded one has. What came of each demand is what
the recording says at its turn; but from within a function for fullscreen requests fail, and
questions go without an answer. -/
theorem reentrant_run_flattens (page : Page) (unheard : page.live = []) (text : String)
    (config : Config) (parsed : Config.parse text = .ok config)
    (mounted : (page.mount text).2 = none) (display : Display) (depth : Nat) (steps : List Step) :
    let first := (page.mount text).1
    let last := (takeAll (take depth) first steps).1
    let entries := journalAll (take depth) (journal depth false) first steps
    let start : Recording :=
      .new config { display with canvas := page.canvasSize config.elements.canvas }
    let flat := start.run (entries.flatMap Entry.operations)
    start.Answers entries ∧
    (last.host = none → ∃ e ∈ entries, e.demand = .drop) ∧
    ∀ host, last.host = some host →
      host.session = flat.session ∧
        last.page.canvasSize host.parts.canvas = flat.display.canvas := by
  intro first last entries start flat
  obtain ⟨_, _, -, -, -, hosted, free, -, -⟩ := Page.mount_succeeded unheard mounted
  have runs : Replays false entries first last := by
    rw [show last = after (take depth) first steps from fst_takeAll _ _ _]
    exact replays_after (replays_take depth) (orderly_mount unheard text) free steps
  obtain ⟨agrees, answers⟩ := runs.agrees start (agrees_mount unheard mounted parsed display)
  refine ⟨answers, ?_, fun host present => ?_⟩
  · apply runs.drops
    rw [hosted]
    rfl
  · obtain ⟨-, session, canvas⟩ := agrees host present
    exact ⟨session, canvas⟩

/-- A module whose function for messages requests fullscreen, and a canvas whose function for
fullscreen asks, requests and fills the window before it refuses. The post and the request count,
what the canvas's function demands does not. -/
theorem reentrant_run_flattens_request_in_post :
    let refusing : Script Step :=
      { steps := [.call .isSoft, .call .requestFullscreen, .call .enterSoft]
        raised := some (.text "denied") }
    let posting : Script Step := { steps := [.call .requestFullscreen, .call .enterSoft] }
    let page : Page :=
      { elements :=
          [{ id := "canvas", tag := .canvas, onFullscreen := some { script := refusing } },
            { id := "module", tag := .plain, onPost := some { script := posting } }]
        innerWidth := .undefined
        innerHeight := .undefined }
    let steps : List Step := [.call (.attach "module"), .call (.postMessage .null)]
    let entries := journalAll (take 2) (journal 2 false) (page.mount "").1 steps
    let config : Config := {}
    let display := Display.standard
    let start : Recording :=
      .new config { display with canvas := page.canvasSize config.elements.canvas }
    page.live = [] ∧ Config.parse "" = .ok config ∧ (page.mount "").2 = none ∧
      entries.map (·.shielded) = [false, true, true, true, false] ∧ start.Answers entries := by
  intro refusing posting page steps entries config display start
  obtain ⟨answers, -⟩ := reentrant_run_flattens page rfl "" config rfl rfl display 2 steps
  have marked : entries.map (·.shielded) = [false, true, true, true, false] := by decide +kernel
  refine ⟨rfl, rfl, rfl, marked, ?_⟩
  exact answers

end Embed.World
