import Embed.Json.Printer
import Embed.Viewport
/-!
# Messages and commands

What an embedded module can say to its page, once decoded, and what the page can post to the module.
Each message has at most one effect: it appends to the output, or it sizes the canvas. A command has
a kind, and a value if the kind takes one.
-/

namespace Embed

/-- How the payloads of the message channel are encoded. -/
inductive Transport where
  /-- A payload is output text as it stands. -/
  | plain
  /-- A payload is a JSON object whose `msg` names its kind. -/
  | structured
  deriving DecidableEq, Repr

/-- A decoded message. -/
inductive Message where
  /-- Output text as it stands. -/
  | text (content : String)
  /-- A line for the output. -/
  | log (line : String)
  /-- A new size for the canvas. -/
  | resize (size : Size)
  /-- A record of a kind that the page does not know. -/
  | unknown (kind : String)
  deriving DecidableEq, Repr

/-- What a message appends to the output. -/
def Message.outputText : Message → Option String
  | .text content => some content
  | .log line => some (line ++ "\n")
  | .resize _ => none
  | .unknown kind => some ("unknown msg received: " ++ kind ++ "\n")

/-- The size that a message gives the canvas. -/
def Message.canvasSize : Message → Option Size
  | .resize size => some size
  | _ => none

/-- Whether a message is of a kind that the page does not know. -/
def Message.isUnknown : Message → Bool
  | .unknown _ => true
  | _ => false

/-- A record for the module, posted over the structured channel. -/
structure Command where
  /-- What is asked for. -/
  kind : String
  /-- What it is asked with. An explicit `null` is a value. -/
  value? : Option Json.Value

/-- The record as a JSON value. -/
def Command.toValue (command : Command) : Json.Value :=
  .object <| ("msg", .string command.kind) ::
    match command.value? with
    | none => []
    | some v => [("val", v)]

/-- The record as it is posted. -/
def Command.text (command : Command) : String :=
  command.toValue.render

end Embed
