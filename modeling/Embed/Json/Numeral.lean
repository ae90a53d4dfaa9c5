import Embed.Json.Reader
/-!
# Reading numbers

Digits accumulate in a significand of 64 bits; those that no longer fit only move the power of ten.
A number without point, power or excess digits is an integer. Any other is the significand, rounded
to a double, times or divided by a power of ten as a double: two roundings, so that the result may
differ from the nearest double in its last place.
-/

namespace Embed.Json

/-- Appends decimal digits to a count as long as it stays below a limit, and gives back the digits
that are left. -/
def accumulate (limit count : Nat) : List Char → Nat × List Char
  | [] => (count, [])
  | digit :: digits =>
    let next := 10 * count + (digit.toNat - '0'.toNat)
    if next < limit then accumulate limit next digits else (count, digit :: digits)

/-- The double nearest to a power of ten. -/
def powerOfTen (n : Nat) : Float :=
  Float.ofScientific 1 false n

/-- A double times a power of ten, if the result is finite. Powers too small for one division are
divided out in steps, until nothing is left to divide. -/
def scale (x : Float) (exponent : Int) : Option Float :=
  if exponent.natAbs ≤ 308 then
    if 0 ≤ exponent then
      let y := x * powerOfTen exponent.toNat
      if y.isInf then none else some y
    else some (x / powerOfTen exponent.natAbs)
  else if x == 0 then some x
  else if 0 < exponent then none
  else scale (x / powerOfTen 308) (exponent + 308)
termination_by (-exponent).toNat
decreasing_by omega

/-- The double of a significand and a power of ten, with its sign applied last. The rest of the
text says where a number that is too large stands. -/
def doubleOf (negative : Bool) (significand : Nat) (exponent : Int) (rest : List Char) :
    Outcome Number :=
  match scale (Float.ofNat significand) exponent with
  | none => .error (.before rest .numberOutOfRange)
  | some x => .ok (.double (if negative then -x else x), rest)

/-- The number of digits without point or power: an integer where it fits. Minus zero and what is
outside the range are doubles. -/
def integerOf (negative : Bool) (count : Nat) : Number :=
  if negative then
    if fits : 0 < count ∧ count ≤ 0x8000000000000000 then .integer ⟨-count, by omega, by omega⟩
    else .double (-(Float.ofNat count))
  else if fits : count < 0x10000000000000000 then .integer ⟨count, by omega, by omega⟩
  else .double (Float.ofNat count)

/-- The digits at the front of a text. -/
def leadingDigits (text : List Char) : List Char := text.takeWhile Char.isDigit

/-- The text behind its leading digits. -/
def afterDigits (text : List Char) : List Char := text.dropWhile Char.isDigit

/-- Skipping digits does not lengthen a text. -/
theorem afterDigits_length (text : List Char) : (afterDigits text).length ≤ text.length :=
  (List.dropWhile_sublist Char.isDigit).length_le

/-- Takes an optional sign off a power of ten; true for a minus. -/
def powerSign : List Char → Bool × List Char
  | '+' :: rest => (false, rest)
  | '-' :: rest => (true, rest)
  | rest => (false, rest)

/-- Taking a sign off does not lengthen a text. -/
theorem powerSign_length (text : List Char) : (powerSign text).2.length ≤ text.length := by
  unfold powerSign
  split <;> simp

/-- The number whose power of ten follows its mark. A power of 2^31 or more makes the number too
large, or zero. -/
def power (negative : Bool) (significand : Nat) (exponent : Int) (text : List Char) :
    Outcome Number :=
  let (below, digits) := powerSign text
  match digits with
  | [] => .error (.atEnd .eofValue)
  | first :: _ =>
    if !first.isDigit then .error (.on digits .invalidNumber)
    else
      let rest := afterDigits digits
      match accumulate 0x80000000 0 (leadingDigits digits) with
      | (size, []) =>
        doubleOf negative significand (if below then exponent - size else exponent + size) rest
      | (_, _ :: unread) =>
        if significand ≠ 0 ∧ ¬ below then .error (.before (unread ++ rest) .numberOutOfRange)
        else .ok (.double (if negative then -0.0 else 0.0), rest)

/-- The number behind whose digits a power of ten may stand. -/
def optionalPower (negative : Bool) (significand : Nat) (exponent : Int) (text : List Char) :
    Outcome Number :=
  match text with
  | 'e' :: rest => power negative significand exponent rest
  | 'E' :: rest => power negative significand exponent rest
  | _ => doubleOf negative significand exponent text

/-- The number whose fraction follows its point. Digits beyond the significand are dropped. -/
def fraction (negative : Bool) (significand : Nat) (exponent : Int) (text : List Char) :
    Outcome Number :=
  let digits := leadingDigits text
  let rest := afterDigits text
  if digits.isEmpty then
    if rest.isEmpty then .error (.atEnd .eofValue) else .error (.on rest .invalidNumber)
  else
    let (extended, dropped) := accumulate 0x10000000000000000 significand digits
    optionalPower negative extended (exponent - (digits.length - dropped.length : Nat)) rest

/-- The number whose digits before any point are given, and the text behind them. -/
def afterWhole (negative : Bool) (digits text : List Char) : Outcome Number :=
  let (significand, excess) := accumulate 0x10000000000000000 0 digits
  match text with
  | '.' :: rest => fraction negative significand excess.length rest
  | 'e' :: rest => power negative significand excess.length rest
  | 'E' :: rest => power negative significand excess.length rest
  | _ =>
    if excess.isEmpty then .ok (integerOf negative significand, text)
    else doubleOf negative significand excess.length text

/-- A number without its sign. A leading zero is a whole part of its own. -/
def unsigned (negative : Bool) (text : List Char) : Outcome Number :=
  match text with
  | [] => .error (.atEnd .eofValue)
  | first :: rest =>
    if !first.isDigit then .error (.on text .invalidNumber)
    else if first = '0' then
      match rest with
      | second :: _ =>
        if second.isDigit then .error (.on rest .invalidNumber)
        else afterWhole negative ['0'] rest
      | [] => afterWhole negative ['0'] rest
    else afterWhole negative (leadingDigits text) (afterDigits text)

/-- A number, with or without a minus before it. -/
def number (text : List Char) : Outcome Number :=
  match text with
  | '-' :: rest => unsigned true rest
  | _ => unsigned false text

/-- Making a double of digits that were read takes no more of the text. -/
theorem doubleOf_rest {negative : Bool} {significand : Nat} {exponent : Int}
    {text rest : List Char} {n : Number}
    (read : doubleOf negative significand exponent text = .ok (n, rest)) : rest = text := by
  unfold doubleOf at read
  split at read
  · simp at read
  · simp only [Except.ok.injEq, Prod.mk.injEq] at read
    exact read.2.symm

/-- A power of ten leaves no longer text than it had before it. -/
theorem power_length {negative : Bool} {significand : Nat} {exponent : Int}
    {text rest : List Char} {n : Number}
    (read : power negative significand exponent text = .ok (n, rest)) :
    rest.length ≤ text.length := by
  have sign := powerSign_length text
  unfold power at read
  dsimp only at read
  split at read
  · simp at read
  · rename_i first tail digits
    split at read
    · simp at read
    · have skipped := afterDigits_length (powerSign text).2
      split at read
      · rw [doubleOf_rest read]
        omega
      · split at read
        · simp at read
        · simp only [Except.ok.injEq, Prod.mk.injEq] at read
          rw [← read.2]
          omega

/-- What may be a power of ten leaves no longer text. -/
theorem optionalPower_length {negative : Bool} {significand : Nat} {exponent : Int}
    {text rest : List Char} {n : Number}
    (read : optionalPower negative significand exponent text = .ok (n, rest)) :
    rest.length ≤ text.length := by
  unfold optionalPower at read
  split at read
  · have := power_length read
    simp only [List.length_cons]
    omega
  · have := power_length read
    simp only [List.length_cons]
    omega
  · exact Nat.le_of_eq (congrArg List.length (doubleOf_rest read))

/-- A fraction leaves no longer text than it had behind its point. -/
theorem fraction_length {negative : Bool} {significand : Nat} {exponent : Int}
    {text rest : List Char} {n : Number}
    (read : fraction negative significand exponent text = .ok (n, rest)) :
    rest.length ≤ text.length := by
  unfold fraction at read
  dsimp only at read
  split at read
  · split at read <;> simp at read
  · have := optionalPower_length read
    have := afterDigits_length text
    omega

/-- What follows the whole part of a number leaves no longer text. -/
theorem afterWhole_length {negative : Bool} {digits text rest : List Char} {n : Number}
    (read : afterWhole negative digits text = .ok (n, rest)) : rest.length ≤ text.length := by
  unfold afterWhole at read
  dsimp only at read
  split at read
  · have := fraction_length read
    simp only [List.length_cons]
    omega
  · have := power_length read
    simp only [List.length_cons]
    omega
  · have := power_length read
    simp only [List.length_cons]
    omega
  · split at read
    · simp only [Except.ok.injEq, Prod.mk.injEq] at read
      exact Nat.le_of_eq (congrArg List.length read.2.symm)
    · exact Nat.le_of_eq (congrArg List.length (doubleOf_rest read))

/-- Skipping digits takes at least the one at the front. -/
theorem afterDigits_shorter {first : Char} {text : List Char} (digit : first.isDigit = true) :
    (afterDigits (first :: text)).length < (first :: text).length := by
  have := afterDigits_length text
  simp only [afterDigits, List.dropWhile_cons, digit, if_true, List.length_cons] at this ⊢
  omega

/-- A number without its sign takes at least a digit. -/
theorem unsigned_shorter {negative : Bool} {text rest : List Char} {n : Number}
    (read : unsigned negative text = .ok (n, rest)) : rest.length < text.length := by
  unfold unsigned at read
  split at read
  · simp at read
  · rename_i first tail
    split at read
    · simp at read
    · rename_i notDigit
      split at read
      · split at read
        · split at read
          · simp at read
          · have := afterWhole_length read
            simp only [List.length_cons] at this ⊢
            omega
        · have := afterWhole_length read
          simp only [List.length_cons] at this ⊢
          omega
      · have whole := afterWhole_length read
        have digit : first.isDigit = true := by simpa using notDigit
        have := @afterDigits_shorter first tail digit
        omega

/-- A number takes at least a digit. -/
theorem number_shorter {text rest : List Char} {n : Number}
    (read : number text = .ok (n, rest)) : rest.length < text.length := by
  unfold number at read
  split at read
  · have := unsigned_shorter read
    simp only [List.length_cons]
    omega
  · exact unsigned_shorter read

end Embed.Json
