import Embed.Host.Basic
/-!
# Attaching a module's element

A host listens on at most one element. Attaching lets go of the one before, also when it then fails.
-/

namespace Embed.World

/-- Detaches the attached element, if there is one. -/
def detach (w : World) : World :=
  match w.host with
  | none => w
  | some host =>
    match host.attached with
    | none => w
    | some id =>
      let names := Host.moduleKinds.map EventKind.name
      let page := w.page.log ("[modhost] Detaching listeners: " ++ String.intercalate ", " names)
      { w with
        page := page.dropListeners (Host.moduleListeners id)
        host := some { host with attached := none } }

/-- Attaches an element in place of the one before. -/
def attach (w : World) (id : String) : World × Result :=
  let w := w.detach
  match w.host with
  | none => (w, .done)
  | some host =>
    match w.page.addListeners [] (Host.moduleListeners id) with
    | (page, some value) => ({ w with page }, .raised value)
    | (page, none) =>
      let line := "[modhost] Attached module element, " ++
        Nat.repr (Host.moduleListeners id).length ++ " listeners"
      ({ w with page := page.log line, host := some { host with attached := some id } }, .done)

/-- Looks an element up and attaches it. If it is not there, nothing changes. -/
def attachById (w : World) (id : String) : World × Result :=
  match w.host with
  | none => (w, .done)
  | some _ =>
    if w.busy then
      (w.log "[modhost] Bridge busy, skipping read", .refused "bridge busy")
    else if (w.page.element? id).isSome then w.attach id
    else (w, .refused ("module element '" ++ id ++ "' not found"))

/-- Gives up the host: first its listeners on the element go, then those on the page. -/
def drop (w : World) : World :=
  match w.host with
  | none => w
  | some host =>
    let held := (host.attached.map Host.moduleListeners).getD [] ++ Host.pageListeners
    { w with page := w.page.dropListeners held, host := none }

end Embed.World
