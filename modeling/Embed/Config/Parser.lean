import Embed.Json.Record
import Embed.Message.Command
import Embed.Text
/-!
# Configuration

What a page may choose about its host. Everything has a default. A configuration is read from a JSON
record. Each member of it is a setting of one field; the configuration is the default with the
settings applied. The element ids are such a record inside it.
-/

namespace Embed

/-- The ids of the page elements that the host drives. Only the canvas is indispensable. -/
structure ElementIds where
  /-- The canvas that the module draws on. -/
  canvas : String := "canvas"
  /-- What turns while the module loads. -/
  spinner : Option String := some "spinner"
  /-- Where output text goes. -/
  output : Option String := some "output"
  /-- The status line. -/
  status : Option String := some "status"
  /-- The progress bar. -/
  progress : Option String := some "progress"
  deriving DecidableEq, Repr

/-- A configuration. -/
structure Config where
  /-- How the module's payloads are encoded. -/
  transport : Transport := .structured
  /-- The elements to drive. -/
  elements : ElementIds := {}
  /-- The most bytes of output text to keep, or all of it. -/
  scrollbackLimit : Option Nat := none
  /-- Whether a canvas that fills the window follows it. -/
  trackWindowSize : Bool := true
  /-- Whether output text also goes to the console. -/
  echoToConsole : Bool := false
  deriving DecidableEq, Repr

/-- A choice of one element id. -/
inductive ElementSetting where
  /-- The canvas. -/
  | canvas (id : String)
  /-- The spinner, or none. -/
  | spinner (id : Option String)
  /-- The output, or none. -/
  | output (id : Option String)
  /-- The status line, or none. -/
  | status (id : Option String)
  /-- The progress bar, or none. -/
  | progress (id : Option String)
  deriving DecidableEq, Repr

/-- The element ids with one choice made. -/
def ElementIds.set (ids : ElementIds) : ElementSetting → ElementIds
  | .canvas id => { ids with canvas := id }
  | .spinner id => { ids with spinner := id }
  | .output id => { ids with output := id }
  | .status id => { ids with status := id }
  | .progress id => { ids with progress := id }

/-- The default element ids with choices made. -/
def ElementIds.ofSettings (settings : List ElementSetting) : ElementIds :=
  settings.foldl .set {}

/-- A choice of one field of a configuration. -/
inductive Setting where
  /-- The encoding of payloads. -/
  | transport (transport : Transport)
  /-- The element ids. -/
  | elements (ids : ElementIds)
  /-- The bytes of output to keep. -/
  | scrollbackLimit (limit : Option Nat)
  /-- Whether a filling canvas follows the window. -/
  | trackWindowSize (on : Bool)
  /-- Whether output goes to the console too. -/
  | echoToConsole (on : Bool)
  deriving DecidableEq, Repr

/-- The configuration with one choice made. -/
def Config.set (config : Config) : Setting → Config
  | .transport transport => { config with transport }
  | .elements ids => { config with elements := ids }
  | .scrollbackLimit limit => { config with scrollbackLimit := limit }
  | .trackWindowSize on => { config with trackWindowSize := on }
  | .echoToConsole on => { config with echoToConsole := on }

/-- The default configuration with choices made. -/
def Config.ofSettings (settings : List Setting) : Config :=
  settings.foldl .set {}

/-- The names of the encodings. -/
def transportNames : List (String × Transport) :=
  [("plain", .plain), ("text", .plain), ("structured", .structured)]

/-- The reader of the name of an encoding. -/
def transportReader : Json.Reader Transport :=
  Json.oneOf transportNames

/-- The record of element ids. -/
def elementShape : Json.Shape ElementSetting where
  title := "struct ElementIds"
  fields :=
    [("canvas", Json.text.map .canvas),
     ("spinner", (Json.optional Json.text).map .spinner),
     ("output", (Json.optional Json.text).map .output),
     ("status", (Json.optional Json.text).map .status),
     ("progress", (Json.optional Json.text).map .progress)]

/-- The reader of element ids. -/
def elementsReader : Json.Reader ElementIds :=
  elementShape.reader.map fun settings => .ofSettings (settings.map (·.2))

/-- The record of a configuration. -/
def configShape : Json.Shape Setting where
  title := "struct BridgeConfig"
  fields :=
    [("transport", transportReader.map .transport),
     ("elements", elementsReader.map .elements),
     ("scrollback_limit", (Json.optional Json.count).map .scrollbackLimit),
     ("track_window_size", Json.boolean.map .trackWindowSize),
     ("echo_to_console", Json.boolean.map .echoToConsole)]

/-- The reader of a configuration. -/
def configReader : Json.Reader Config :=
  configShape.reader.map fun settings => .ofSettings (settings.map (·.2))

/-- The encoding that a JSON text names. -/
def Transport.parse (text : String) : Except Json.ReadError Transport :=
  Json.readAll transportReader text

/-- The configuration that a text gives; a blank text gives the default. -/
def Config.parse (text : String) : Except Json.ReadError Config :=
  if (Text.trim text.toList).isEmpty then .ok {}
  else Json.readAll configReader text

end Embed
