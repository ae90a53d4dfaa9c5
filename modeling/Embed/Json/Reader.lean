import Embed.Json.Fault
/-!
# Readers

A reader takes a value off the front of a text and leaves the rest, or stops with a fault. Each one
consumes at least a character; the law stands in the type, so that a loop over readers ends because
the text does. This module holds the readers of single pieces: blanks, literals and strings.
-/

open Embed.Text (byteLength)

namespace Embed.Json

/-- What a reader makes of a text: a value and the rest, or a fault. -/
abbrev Outcome (α : Type) := Except Fault (α × List Char)

/-- A way to take a value off the front of a text. -/
structure Reader (α : Type) where
  /-- The value read and the text behind it. -/
  run : List Char → Outcome α
  /-- What is read is not empty. -/
  shorter : ∀ {text value rest}, run text = .ok (value, rest) → rest.length < text.length

/-- The reader that applies a function to what another reads. -/
def Reader.map {α β : Type} (f : α → β) (reader : Reader α) : Reader β where
  run text :=
    match reader.run text with
    | .error fault => .error fault
    | .ok (value, rest) => .ok (f value, rest)
  shorter := by
    intro text value rest read
    cases inner : reader.run text with
    | error fault => simp [inner] at read
    | ok pair =>
      simp only [inner, Except.ok.injEq, Prod.mk.injEq] at read
      obtain ⟨_, rfl⟩ := read
      exact reader.shorter inner

/-- The blanks that JSON allows between its pieces. -/
def isSpace (c : Char) : Bool :=
  c == ' ' || c == '\n' || c == '\t' || c == '\r'

/-- A text without its leading blanks. -/
def skipSpace (text : List Char) : List Char :=
  text.dropWhile isSpace

/-- Skipping blanks does not lengthen a text. -/
theorem skipSpace_length (text : List Char) : (skipSpace text).length ≤ text.length :=
  (List.dropWhile_sublist isSpace).length_le

/-- Takes the given letters off the front of a text. -/
def word : List Char → List Char → Except Fault (List Char)
  | [], text => .ok text
  | _ :: _, [] => .error (.atEnd .eofValue)
  | letter :: letters, c :: rest =>
    if c = letter then word letters rest else .error (.on (c :: rest) .expectedIdent)

/-- A word that is read takes as many characters as it has letters. -/
theorem word_length {letters text rest : List Char} (read : word letters text = .ok rest) :
    rest.length + letters.length = text.length := by
  induction letters generalizing text with
  | nil => simp only [word, Except.ok.injEq] at read; simp [read]
  | cons letter letters ih =>
    cases text with
    | nil => simp [word] at read
    | cons c text =>
      simp only [word] at read
      split at read
      · have := ih read
        simp only [List.length_cons]
        omega
      · simp at read

/-- The value of a hexadecimal digit of either case. -/
def hexDigit? (c : Char) : Option Nat :=
  if '0' ≤ c ∧ c ≤ '9' then some (c.toNat - '0'.toNat)
  else if 'a' ≤ c ∧ c ≤ 'f' then some (c.toNat - 'a'.toNat + 10)
  else if 'A' ≤ c ∧ c ≤ 'F' then some (c.toNat - 'A'.toNat + 10)
  else none

/-- The value of four hexadecimal digits. -/
def hexValue? (a b c d : Char) : Option Nat := do
  let a ← hexDigit? a
  let b ← hexDigit? b
  let c ← hexDigit? c
  let d ← hexDigit? d
  return ((a * 16 + b) * 16 + c) * 16 + d

/-- Takes four hexadecimal digits off a text. A text of fewer than four bytes ends too early;
otherwise four bytes are taken before they are looked at. -/
def hexFour (text : List Char) : Outcome Nat :=
  if byteLength text < 4 then .error (.atEnd .eofString)
  else
    let fault : Fault := ⟨.invalidEscape, byteLength text - 4⟩
    match text with
    | a :: b :: c :: d :: rest =>
      match hexValue? a b c d with
      | some code => .ok (code, rest)
      | none => .error fault
    | _ => .error fault

/-- Four digits that are read leave a shorter text. -/
theorem hexFour_shorter {text rest : List Char} {code : Nat}
    (read : hexFour text = .ok (code, rest)) : rest.length < text.length := by
  unfold hexFour at read
  split at read
  · simp at read
  · dsimp only at read
    split at read
    · split at read
      · simp only [Except.ok.injEq, Prod.mk.injEq] at read
        obtain ⟨_, rfl⟩ := read
        simp only [List.length_cons]
        omega
      · simp at read
    · simp at read

/-- Takes one character off a text, which must be the given one. -/
def expectChar (expected : Char) : List Char → Except Fault (List Char)
  | [] => .error (.atEnd .eofString)
  | c :: rest =>
    if c = expected then .ok rest else .error (.on (c :: rest) .unexpectedEndOfHex)

/-- A character that was expected and is there leaves a shorter text. -/
theorem expectChar_shorter {expected : Char} {text rest : List Char}
    (read : expectChar expected text = .ok rest) : rest.length < text.length := by
  cases text with
  | nil => simp [expectChar] at read
  | cons c text =>
    simp only [expectChar] at read
    split at read
    · simp only [Except.ok.injEq] at read
      simp [read]
    · simp at read

/-- The code points that only stand for the first half of a pair. -/
def isLeading (code : Nat) : Bool := 0xD800 ≤ code && code ≤ 0xDBFF

/-- The code points that only stand for the second half of a pair. -/
def isTrailing (code : Nat) : Bool := 0xDC00 ≤ code && code ≤ 0xDFFF

/-- The second half of a pair, as an escape of its own. -/
def trailingHalf (text : List Char) : Outcome Nat :=
  match expectChar '\\' text with
  | .error fault => .error fault
  | .ok afterSlash =>
    match expectChar 'u' afterSlash with
    | .error fault => .error fault
    | .ok digits => hexFour digits

/-- The second half of a pair leaves a shorter text. -/
theorem trailingHalf_shorter {text rest : List Char} {code : Nat}
    (read : trailingHalf text = .ok (code, rest)) : rest.length < text.length := by
  unfold trailingHalf at read
  split at read
  · simp at read
  · rename_i slash
    split at read
    · simp at read
    · rename_i mark
      have h₁ := expectChar_shorter slash
      have h₂ := expectChar_shorter mark
      have h₃ := hexFour_shorter read
      omega

/-- The character that four hexadecimal digits denote, or that a pair of such escapes denotes. -/
def codeEscape (text : List Char) : Outcome Char :=
  match hexFour text with
  | .error fault => .error fault
  | .ok (code, rest) =>
    if isTrailing code then .error (.before rest .loneSurrogate)
    else if isLeading code then
      match trailingHalf rest with
      | .error fault => .error fault
      | .ok (second, last) =>
        if isTrailing second then
          .ok (Char.ofNat (0x10000 + (code - 0xD800) * 0x400 + (second - 0xDC00)), last)
        else .error (.before last .loneSurrogate)
    else .ok (Char.ofNat code, rest)

/-- An escape by code leaves a text shorter than its digits began. -/
theorem codeEscape_shorter {text rest : List Char} {c : Char}
    (read : codeEscape text = .ok (c, rest)) : rest.length < text.length := by
  unfold codeEscape at read
  split at read
  · simp at read
  · rename_i digits
    have h₁ := hexFour_shorter digits
    split at read
    · simp at read
    · split at read
      · split at read
        · simp at read
        · rename_i half
          have h₂ := trailingHalf_shorter half
          split at read
          · simp only [Except.ok.injEq, Prod.mk.injEq] at read
            obtain ⟨_, rfl⟩ := read
            omega
          · simp at read
      · simp only [Except.ok.injEq, Prod.mk.injEq] at read
        obtain ⟨_, rfl⟩ := read
        exact h₁

/-- The character that a letter denotes after a backslash. -/
def letterEscape? (c : Char) : Option Char :=
  if c = '"' then some '"'
  else if c = '\\' then some '\\'
  else if c = '/' then some '/'
  else if c = 'b' then some '\x08'
  else if c = 'f' then some '\x0c'
  else if c = 'n' then some '\n'
  else if c = 'r' then some '\r'
  else if c = 't' then some '\t'
  else none

/-- The character that an escape denotes, read behind its backslash. -/
def escape : List Char → Outcome Char
  | [] => .error (.atEnd .eofString)
  | c :: rest =>
    match letterEscape? c with
    | some meant => .ok (meant, rest)
    | none => if c = 'u' then codeEscape rest else .error (.on (c :: rest) .invalidEscape)

/-- An escape leaves a shorter text, so the characters of a string can be read one after the other.
-/
theorem escape_shorter {text rest : List Char} {c : Char}
    (read : escape text = .ok (c, rest)) : rest.length < text.length := by
  cases text with
  | nil => simp [escape] at read
  | cons first text =>
    simp only [escape] at read
    split at read
    · simp only [Except.ok.injEq, Prod.mk.injEq] at read
      obtain ⟨_, rfl⟩ := read
      simp
    · split at read
      · have := codeEscape_shorter read
        simp only [List.length_cons]
        omega
      · simp at read

/-- Puts a character before what was read. -/
def Outcome.cons (c : Char) : Outcome (List Char) → Outcome (List Char)
  | .error fault => .error fault
  | .ok (text, rest) => .ok (c :: text, rest)

/-- What is read with a character before it was read without it. -/
theorem Outcome.cons_eq_ok {c : Char} {outcome : Outcome (List Char)} {text rest : List Char}
    (read : Outcome.cons c outcome = .ok (text, rest)) :
    ∃ tail, outcome = .ok (tail, rest) ∧ text = c :: tail := by
  cases outcome with
  | error fault => simp [Outcome.cons] at read
  | ok pair =>
    simp only [Outcome.cons, Except.ok.injEq, Prod.mk.injEq] at read
    exact ⟨pair.1, by rw [← read.2], read.1.symm⟩

/-- The characters of a string, read behind its opening quote. -/
def stringBody (text : List Char) : Outcome (List Char) :=
  match text with
  | [] => .error (.atEnd .eofString)
  | c :: rest =>
    if c = '"' then .ok ([], rest)
    else if c = '\\' then
      match read : escape rest with
      | .error fault => .error fault
      | .ok (meant, rest') =>
        have : rest'.length < rest.length := escape_shorter read
        .cons meant (stringBody rest')
    else if c.toNat < 0x20 then .error (.before rest .controlCharacter)
    else .cons c (stringBody rest)
termination_by text.length

/-- A string takes at least its closing quote. -/
theorem stringBody_shorter {text rest : List Char} {s : List Char}
    (read : stringBody text = .ok (s, rest)) : rest.length < text.length := by
  fun_induction stringBody text generalizing s with
  | case1 => simp at read
  | case2 tail =>
    simp only [Except.ok.injEq, Prod.mk.injEq] at read
    obtain ⟨_, rfl⟩ := read
    simp
  | case3 => simp at read
  | case4 tail _ meant tail' escaped smaller ih =>
    obtain ⟨s', inner, _⟩ := Outcome.cons_eq_ok read
    have := ih inner
    simp only [List.length_cons]
    omega
  | case5 => simp at read
  | case6 c tail notQuote notSlash printable ih =>
    obtain ⟨s', inner, _⟩ := Outcome.cons_eq_ok read
    have := ih inner
    simp only [List.length_cons]
    omega

end Embed.Json
