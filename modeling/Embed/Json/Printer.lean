import Embed.Json.Basic
/-!
# Writing JSON

The compact form: no blanks, members in the order of the object's list, and in strings only those
characters escaped that must be.
-/

namespace Embed.Json

/-- One lower-case hexadecimal digit. -/
def hexChar (n : Nat) : Char :=
  Nat.digitChar (n % 16)

/-- How a character stands inside a string. Control characters with a letter of their own use it,
the others their code in four digits; everything from the blank on stands for itself, but for the
quote and the backslash. -/
def escapedChar (c : Char) : List Char :=
  if c = '"' then ['\\', '"']
  else if c = '\\' then ['\\', '\\']
  else if c = '\x08' then ['\\', 'b']
  else if c = '\x0c' then ['\\', 'f']
  else if c = '\n' then ['\\', 'n']
  else if c = '\r' then ['\\', 'r']
  else if c = '\t' then ['\\', 't']
  else if c.toNat < 0x20 then ['\\', 'u', '0', '0', hexChar (c.toNat / 16), hexChar c.toNat]
  else [c]

/-- A string between quotes. -/
def stringChars (s : String) : List Char :=
  '"' :: (s.toList.flatMap escapedChar ++ ['"'])

mutual

/-- A value in compact form. -/
def Value.chars : Value → List Char
  | .null => ['n', 'u', 'l', 'l']
  | .bool true => ['t', 'r', 'u', 'e']
  | .bool false => ['f', 'a', 'l', 's', 'e']
  | .number n => n.chars
  | .string s => stringChars s
  | .array [] => ['[', ']']
  | .array (item :: items) => '[' :: (item.chars ++ itemsChars items)
  | .object [] => ['\x7b', '\x7d']
  | .object ((key, value) :: members) =>
    '\x7b' :: (stringChars key ++ ':' :: (value.chars ++ membersChars members))

/-- The items of an array behind its first, each after a comma, up to the closing bracket. -/
def itemsChars : List Value → List Char
  | [] => [']']
  | item :: items => ',' :: (item.chars ++ itemsChars items)

/-- The members of an object behind its first, each after a comma, up to the closing brace. -/
def membersChars : List (String × Value) → List Char
  | [] => ['\x7d']
  | (key, value) :: members =>
    ',' :: (stringChars key ++ ':' :: (value.chars ++ membersChars members))

end

/-- The compact text of a value. -/
def Value.render (v : Value) : String :=
  String.ofList v.chars

end Embed.Json
