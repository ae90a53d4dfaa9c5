import Embed.Json.Parser
import Embed.Message.Command
/-!
# Decoding payloads

A structured payload is a JSON object. Its member `msg` names the kind; the kinds `log` and `resize`
demand further members, all others none. Members that a kind does not demand are never looked at.
-/

namespace Embed

/-- Why a payload is no message. -/
inductive DecodeError where
  /-- It is no JSON text; the reason follows. -/
  | malformed (reason : String)
  /-- It is JSON, but no object. -/
  | notAnObject
  /-- No member names its kind by a string. -/
  | missingKind
  /-- A member that its kind demands is missing or does not fit. -/
  | invalidField (kind reason : String)
  deriving DecidableEq, Repr

/-- The words for a payload that is no message. -/
def DecodeError.message : DecodeError → String
  | .malformed reason => "malformed payload: " ++ reason
  | .notAnObject => "payload is not an object"
  | .missingKind => "missing or non-string 'msg' field"
  | .invalidField kind reason => "invalid '" ++ kind ++ "' message: " ++ reason

/-- The members of a structured payload. -/
abbrev Fields := List (String × Json.Value)

/-- A value as a string. -/
def asText : Json.Value → Except Json.Mismatch String
  | .string s => .ok s
  | v => .error (.wrongType v.found "a string")

/-- A value as a number of pixels: an integer of 32 bits other than zero. -/
def asPixels : Json.Value → Except Json.Mismatch UInt32
  | .number (.integer i) =>
    if 0 < i.val ∧ i.val < 0x100000000 then .ok (UInt32.ofNat i.val.toNat)
    else .error (.wrongValue (.number (.integer i)) "a nonzero u32")
  | v => .error (.wrongType v.found "a nonzero u32")

/-- A member read by the given reading, if it is there. -/
def Fields.read? {α : Type} (fields : Fields) (name : String)
    (reading : Json.Value → Except Json.Mismatch α) : Except Json.Mismatch (Option α) :=
  match fields.lookup name with
  | none => .ok none
  | some v => (reading v).map some

/-- A member that has to be there. -/
def demand {α : Type} (name : String) : Option α → Except Json.Mismatch α
  | none => .error (.missingField name)
  | some a => .ok a

/-- The line of a `log` record. -/
def logLine (fields : Fields) : Except Json.Mismatch String := do
  let line ← fields.read? "val" asText
  demand "val" line

/-- The size of a `resize` record. Members are checked in the order of their names, and only then
is the width missed before the height. -/
def resizeSize (fields : Fields) : Except Json.Mismatch Size := do
  let height ← fields.read? "h" asPixels
  let width ← fields.read? "w" asPixels
  let width ← demand "w" width
  let height ← demand "h" height
  return ⟨width, height⟩

/-- Makes a mismatch in a record of some kind an error of decoding. -/
def inKind {α : Type} (kind : String) : Except Json.Mismatch α → Except DecodeError α
  | .error mismatch => .error (.invalidField kind mismatch.message)
  | .ok a => .ok a

/-- The message of a record whose kind is known. -/
def decodeKind (kind : String) (fields : Fields) : Except DecodeError Message :=
  if kind = "log" then (inKind kind (logLine fields)).map .log
  else if kind = "resize" then (inKind kind (resizeSize fields)).map .resize
  else .ok (.unknown kind)

/-- The message of a JSON value. -/
def decodeValue : Json.Value → Except DecodeError Message
  | .object fields =>
    match fields.lookup "msg" with
    | some (.string kind) => decodeKind kind fields
    | _ => .error .missingKind
  | _ => .error .notAnObject

/-- The message of a structured payload. -/
def decodeStructured (payload : String) : Except DecodeError Message :=
  match Json.parse payload with
  | .error e => .error (.malformed e.message)
  | .ok v => decodeValue v

/-- The message of a payload. -/
def decode (transport : Transport) (payload : String) : Except DecodeError Message :=
  match transport with
  | .plain => .ok (.text payload)
  | .structured => decodeStructured payload

end Embed
