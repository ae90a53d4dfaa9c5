import Embed.Decimal
/-!
# JSON values

The values that a JSON text denotes. Numbers are exact where they are integers of 64 bits, signed or
unsigned, and doubles otherwise. An object is the list of its members; the reader keeps members in
ascending order of their keys, so that two objects with the same members are the same value.
-/

namespace Embed.Json

/-- An integer that fits 64 bits, with or without a sign bit. -/
structure Integer where
  /-- The integer itself. -/
  val : Int
  /-- Below zero it fits the signed range. -/
  lower : -0x8000000000000000 ≤ val
  /-- Above zero it fits the unsigned range. -/
  upper : val < 0x10000000000000000
  deriving DecidableEq

/-- The integer of an unsigned word. -/
def Integer.ofUInt64 (n : UInt64) : Integer :=
  ⟨n.toNat, by omega, by have := n.toNat_lt; omega⟩

/-- The integer of an unsigned half word. -/
def Integer.ofUInt32 (n : UInt32) : Integer :=
  ⟨n.toNat, by omega, by have := n.toNat_lt; omega⟩

/-- A number: exact for the integers of 64 bits, a double for all others. -/
inductive Number where
  /-- A number written as an integer that fits. -/
  | integer (i : Integer)
  /-- Any other number. -/
  | double (x : Float)

/-- A JSON value. -/
inductive Value where
  /-- The literal `null`. -/
  | null
  /-- A truth value. -/
  | bool (b : Bool)
  /-- A number. -/
  | number (n : Number)
  /-- A string. -/
  | string (s : String)
  /-- An array. -/
  | array (items : List Value)
  /-- An object, as the list of its members. -/
  | object (members : List (String × Value))

/-- A count as a JSON value. -/
def Value.count (n : UInt64) : Value :=
  .number (.integer (.ofUInt64 n))

/-- Puts a member in its place in the order of keys. A member of the same key is replaced: the
last one written wins. -/
def insertMember (key : String) (value : Value) : List (String × Value) → List (String × Value)
  | [] => [(key, value)]
  | (k, v) :: rest =>
    if key < k then (key, value) :: (k, v) :: rest
    else if key = k then (key, value) :: rest
    else (k, v) :: insertMember key value rest

/-- How doubles are written in JSON: positionally from 10^-5 up to below 10^16, with a point even
when they are whole; a half goes to the even digit. What is no finite number is `null`. -/
def doubleLayout : Decimal.Layout where
  tie := .even
  positional e := -5 ≤ e && e < 16
  pointed := true
  nan := "null"
  infinity := "null"
  signedInfinity := false

/-- The decimal digits of an integer, with a sign below zero. -/
def Integer.chars (i : Integer) : List Char :=
  if i.val < 0 then '-' :: Nat.toDigits 10 i.val.natAbs else Nat.toDigits 10 i.val.natAbs

/-- How a number is written. -/
def Number.chars : Number → List Char
  | .integer i => i.chars
  | .double x => (doubleLayout.text x).toList

end Embed.Json
