import Embed.Decimal
import Embed.Json.Printer
/-!
# Values that pages hand over

The values that a page's scripts pass, throw and keep in properties, as far as a host looks into
them.
-/

namespace Embed

/-- A value of a page. -/
inductive PageValue where
  /-- No value at all. -/
  | undefined
  /-- The value `null`. -/
  | null
  /-- A truth value. -/
  | bool (b : Bool)
  /-- A number. -/
  | number (x : Float)
  /-- A string. -/
  | text (s : String)
  /-- An error object, with its message. -/
  | failure (message : PageValue)
  /-- An object, with its text as JSON. -/
  | record (json : String)
  /-- An object that contains itself, and so has no text as JSON. -/
  | cyclic (label : String)

/-- How a page's numbers are written: always positionally, whole numbers without a point; of two
equally near numerals the larger. -/
def pageNumbers : Decimal.Layout where
  tie := .up
  positional _ := true
  pointed := false
  nan := "NaN"
  infinity := "inf"
  signedInfinity := true

namespace PageValue

/-- The string that a value is. -/
def text? : PageValue → Option String
  | .text s => some s
  | _ => none

/-- The number that a value is. -/
def number? : PageValue → Option Float
  | .number x => some x
  | _ => none

/-- The message of an error object, if it is a string. -/
def message? : PageValue → Option String
  | .failure message => message.text?
  | _ => none

/-- A value as it is shown when nothing better is known of it. -/
def inspect : PageValue → String
  | .undefined => "JsValue(undefined)"
  | .null => "JsValue(null)"
  | .bool true => "JsValue(true)"
  | .bool false => "JsValue(false)"
  | .number x => "JsValue(" ++ pageNumbers.text x ++ ")"
  | .text s => "JsValue(\"" ++ s ++ "\")"
  | .failure _ | .record _ | .cyclic _ => "JsValue(Object)"

/-- The words for a thrown value: the string it is, or its message, or what it looks like. -/
def describe (value : PageValue) : String :=
  match value.text?, value.message? with
  | some s, _ => s
  | none, some message => message
  | none, none => value.inspect

/-- The text of a value as JSON, unless it has none. -/
def stringify? : PageValue → Option String
  | .undefined => none
  | .null => some "null"
  | .bool true => some "true"
  | .bool false => some "false"
  | .number x => some (if x.isFinite then pageNumbers.text x else "null")
  | .text s => some (String.ofList (Json.stringChars s))
  | .failure _ => some "\x7b\x7d"
  | .record json => some json
  | .cyclic _ => none

/-- The payload that a value stands for on the message channel: a string is its own payload, any
other value its JSON text. -/
def payload? (value : PageValue) : Option String :=
  match value.text? with
  | some s => some s
  | none => value.stringify?

end PageValue

end Embed
