import Embed.Json.Basic
import Embed.Text
/-!
# Why a JSON text is refused, and where

A fault names its cause and its place. Reading goes forward over the text and keeps only what is
left of it, so a place is the number of bytes behind it; lines and columns, which count from the
front, are worked out once at the end.
-/

open Embed.Text (byteLength)

namespace Embed.Json

/-- What stands in a text where something else was expected. -/
inductive Found where
  /-- The literal `null`. -/
  | null
  /-- A truth value. -/
  | bool (b : Bool)
  /-- A number. -/
  | number (n : Number)
  /-- A string. -/
  | string (s : String)
  /-- An array. -/
  | array
  /-- An object. -/
  | object

/-- What a value counts as where something else was expected. -/
def Value.found : Value → Found
  | .null => .null
  | .bool b => .bool b
  | .number n => .number n
  | .string s => .string s
  | .array _ => .array
  | .object _ => .object

/-- The words for what was found. -/
def Found.phrase : Found → String
  | .null => "null"
  | .bool true => "boolean `true`"
  | .bool false => "boolean `false`"
  | .number (.integer i) => "integer `" ++ String.ofList i.chars ++ "`"
  | .number (.double x) => "floating point `" ++ doubleLayout.text x ++ "`"
  | .string s => "string " ++ Text.quoted s
  | .array => "sequence"
  | .object => "map"

/-- A value of good form that does not fit the type it is read at. -/
inductive Mismatch where
  /-- A value of another type. -/
  | wrongType (found : Found) (expected : String)
  /-- A value of the type, outside its range. -/
  | wrongValue (found : Found) (expected : String)
  /-- A member that the type demands is not there. -/
  | missingField (field : String)
  /-- A member that the type does not have. -/
  | unknownField (field : String) (fields : List String)
  /-- A member that was there before. -/
  | duplicateField (field : String)
  /-- A name that is none of the type's variants. -/
  | unknownVariant (variant : String) (variants : List String)

/-- Names in backquotes, separated by commas. -/
def nameList (names : List String) : String :=
  String.intercalate ", " (names.map fun name => "`" ++ name ++ "`")

/-- The words for a mismatch. -/
def Mismatch.message : Mismatch → String
  | .wrongType found expected => "invalid type: " ++ found.phrase ++ ", expected " ++ expected
  | .wrongValue found expected => "invalid value: " ++ found.phrase ++ ", expected " ++ expected
  | .missingField field => "missing field `" ++ field ++ "`"
  | .unknownField field fields =>
    "unknown field `" ++ field ++ "`, expected one of " ++ nameList fields
  | .duplicateField field => "duplicate field `" ++ field ++ "`"
  | .unknownVariant variant variants =>
    "unknown variant `" ++ variant ++ "`, expected one of " ++ nameList variants

/-- Why reading stops. -/
inductive Cause where
  /-- The text ends where a value should stand. -/
  | eofValue
  /-- The text ends inside an array. -/
  | eofList
  /-- The text ends inside an object. -/
  | eofObject
  /-- The text ends inside a string. -/
  | eofString
  /-- A word starts like a literal and is none. -/
  | expectedIdent
  /-- No value starts here. -/
  | expectedValue
  /-- After an item of an array comes neither a comma nor the end. -/
  | expectedListEnd
  /-- After a member of an object comes neither a comma nor the end. -/
  | expectedObjectEnd
  /-- After a key comes no colon. -/
  | expectedColon
  /-- A member does not start with a string. -/
  | keyNotString
  /-- A comma stands before a closing bracket or brace. -/
  | trailingComma
  /-- Something stands after the end. -/
  | trailingCharacters
  /-- Arrays and objects are nested too deep. -/
  | recursionLimit
  /-- A string holds a bare control character. -/
  | controlCharacter
  /-- A backslash with nothing it can escape. -/
  | invalidEscape
  /-- Half of a surrogate pair without the other. -/
  | loneSurrogate
  /-- A first half of a surrogate pair with no escape behind it. -/
  | unexpectedEndOfHex
  /-- A number of bad form. -/
  | invalidNumber
  /-- A number beyond the largest double. -/
  | numberOutOfRange
  /-- A value that does not fit the type it is read at. -/
  | mismatch (m : Mismatch)

/-- The words for a cause. -/
def Cause.message : Cause → String
  | .eofValue => "EOF while parsing a value"
  | .eofList => "EOF while parsing a list"
  | .eofObject => "EOF while parsing an object"
  | .eofString => "EOF while parsing a string"
  | .expectedIdent => "expected ident"
  | .expectedValue => "expected value"
  | .expectedListEnd => "expected `,` or `]`"
  | .expectedObjectEnd => "expected `,` or `\x7d`"
  | .expectedColon => "expected `:`"
  | .keyNotString => "key must be a string"
  | .trailingComma => "trailing comma"
  | .trailingCharacters => "trailing characters"
  | .recursionLimit => "recursion limit exceeded"
  | .controlCharacter => "control character (\\u0000-\\u001F) found while parsing a string"
  | .invalidEscape => "invalid escape"
  | .loneSurrogate => "lone leading surrogate in hex escape"
  | .unexpectedEndOfHex => "unexpected end of hex escape"
  | .invalidNumber => "invalid number"
  | .numberOutOfRange => "number out of range"
  | .mismatch m => m.message

/-- A cause and the number of bytes behind its place. -/
structure Fault where
  /-- Why reading stopped. -/
  cause : Cause
  /-- The bytes of the text behind the place. -/
  left : Nat

/-- The fault that stands right before the rest of a text. -/
def Fault.before (rest : List Char) (cause : Cause) : Fault :=
  ⟨cause, byteLength rest⟩

/-- The fault that stands on the first byte of the rest of a text, or at its end if none is
left. -/
def Fault.on (rest : List Char) (cause : Cause) : Fault :=
  ⟨cause, byteLength rest - 1⟩

/-- The fault that stands at the end of the text. -/
def Fault.atEnd (cause : Cause) : Fault :=
  ⟨cause, 0⟩

/-- The line and the column of the place that many bytes into a text, from the place reached so
far. Lines count from one, columns are the bytes since the line began. -/
def advance (line column : Nat) : List Char → Nat → Nat × Nat
  | [], _ => (line, column)
  | c :: rest, bytes =>
    if bytes < c.utf8Size then (line, column + bytes)
    else if c = '\n' then advance (line + 1) 0 rest (bytes - c.utf8Size)
    else advance line (column + c.utf8Size) rest (bytes - c.utf8Size)

/-- A refused text: the cause with its line and column. -/
structure ReadError where
  /-- Why the text was refused. -/
  cause : Cause
  /-- The line, from one. -/
  line : Nat
  /-- The bytes of that line up to the place. -/
  column : Nat

/-- The fault of reading a text, with its place counted from the front. -/
def Fault.locate (fault : Fault) (text : List Char) : ReadError :=
  let (line, column) := advance 1 0 text (byteLength text - fault.left)
  ⟨fault.cause, line, column⟩

/-- The words for a refused text. -/
def ReadError.message (e : ReadError) : String :=
  e.cause.message ++ " at line " ++ Nat.repr e.line ++ " column " ++ Nat.repr e.column

end Embed.Json
