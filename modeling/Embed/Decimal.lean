/-!
# Doubles in decimal

Doubles are written with the fewest digits that read back, in a layout that the format decides, are
rounded to whole numbers, and are read from free text. Everything that is written or measured of a
double goes through its bits; from there on all arithmetic is exact.
-/

namespace Embed.Decimal

/-! ## A double taken apart

The bits of a double, read as a sign and an integer times a power of two.
-/

/-- What the bits of a double stand for. -/
inductive Parts where
  /-- No number. -/
  | nan
  /-- An infinity of either sign. -/
  | infinite (negative : Bool)
  /-- The number `± mantissa * 2 ^ exponent`; a zero keeps its sign. -/
  | finite (negative : Bool) (mantissa : Nat) (exponent : Int)
  deriving Repr, DecidableEq

/-- Reads sign, exponent field and fraction field of a double. -/
def parts (x : Float) : Parts :=
  let bits : Nat := x.toBits.toNat
  let negative := bits / 0x8000000000000000 % 2 == 1
  let field : Nat := bits / 0x10000000000000 % 0x800
  let fraction : Nat := bits % 0x10000000000000
  if field = 0x7ff then
    if fraction = 0 then .infinite negative else .nan
  else if field = 0 then .finite negative fraction (-1074)
  else .finite negative (0x10000000000000 + fraction) (field - 1075)

/-! ## The fewest digits that read back

A double is the nearest one for every real in some span around it. Its shortest numeral is the
first, counting digits from one, that falls into that span; of two with equally many digits the one
nearer to the double. The search compares the double's two neighbours on each decimal grid in exact
integer arithmetic.
-/

/-- Which of two equally near numerals is taken. -/
inductive Tie where
  /-- The larger one. -/
  | up
  /-- The one whose last digit is even. -/
  | even
  deriving Repr, DecidableEq

/-- Significant digits, none of them a trailing zero, and the power of ten of the first. -/
structure Numeral where
  /-- The digits, first digit first. -/
  digits : List Char
  /-- The power of ten that the first digit counts. -/
  exponent : Int
  deriving Repr, DecidableEq

/-- The numeral of zero. -/
def Numeral.zero : Numeral := ⟨['0'], 0⟩

/-- The numeral of `count * 10 ^ place`, for a count that is not zero. -/
def Numeral.ofCount (count : Nat) (place : Int) : Numeral :=
  let written := Nat.toDigits 10 count
  { digits := (written.reverse.dropWhile (· == '0')).reverse
    exponent := place + (written.length - 1 : Nat) }

/-- The reals that round to a double, as numerators over one denominator. -/
structure Span where
  /-- The double itself. -/
  value : Nat
  /-- The lower end. -/
  low : Nat
  /-- The upper end. -/
  high : Nat
  /-- The common denominator. -/
  unit : Nat
  /-- Whether the ends themselves round to the double. -/
  closed : Bool
  deriving Repr

/-- The span of `mantissa * 2 ^ exponent`. Below a power of two the next double is only half as
far away; the ends belong to the span when the mantissa is even. -/
def Span.ofParts (mantissa : Nat) (exponent : Int) : Span :=
  let scale := Nat.pow 2 (exponent - 2).toNat
  let gap := if mantissa = 0x10000000000000 ∧ -1074 < exponent then 1 else 2
  { value := 4 * mantissa * scale
    low := (4 * mantissa - gap) * scale
    high := (4 * mantissa + 2) * scale
    unit := Nat.pow 2 (2 - exponent).toNat
    closed := mantissa % 2 == 0 }

/-- The least power of ten above the double. -/
def Span.ceiling (s : Span) : Int :=
  let guess : Int := (Nat.toDigits 10 s.value).length - (Nat.toDigits 10 s.unit).length
  if s.value * Nat.pow 10 (-guess).toNat < s.unit * Nat.pow 10 guess.toNat then guess else guess + 1

/-- The double's two neighbours on the grid of multiples of `10 ^ place`: the lower one, whether
each lies in the span, and whether the upper one is nearer under the tie rule. -/
def Span.neighbours (s : Span) (tie : Tie) (place : Int) : Nat × Bool × Bool × Bool :=
  let finer := Nat.pow 10 (-place).toNat
  let unit := s.unit * Nat.pow 10 place.toNat
  let value := s.value * finer
  let below := value / unit
  let inside (count : Nat) : Bool :=
    if s.closed then s.low * finer ≤ count * unit && count * unit ≤ s.high * finer
    else s.low * finer < count * unit && count * unit < s.high * finer
  let twice := 2 * (value - below * unit)
  let upward := unit < twice || (unit == twice && (tie == .up || below % 2 == 1))
  (below, inside below, inside (below + 1), upward)

/-- The numeral on the grid of `10 ^ place` that reads back as the double, if there is one. -/
def Span.numeral? (s : Span) (tie : Tie) (place : Int) : Option Numeral :=
  match s.neighbours tie place with
  | (below, true, true, upward) => some (.ofCount (if upward then below + 1 else below) place)
  | (below, true, false, _) => some (.ofCount below place)
  | (below, false, true, _) => some (.ofCount (below + 1) place)
  | (_, false, false, _) => none

/-- The shortest numeral of `mantissa * 2 ^ exponent`. Seventeen digits always read back, so the
last grid needs no test. -/
def shortest (tie : Tie) (mantissa : Nat) (exponent : Int) : Numeral :=
  if mantissa = 0 then .zero
  else
    let s := Span.ofParts mantissa exponent
    let top := s.ceiling
    let fewest := (List.range 16).findSome? fun n => s.numeral? tie (top - (n + 1 : Nat))
    fewest.getD <|
      let (below, _, _, upward) := s.neighbours tie (top - 17)
      .ofCount (if upward then below + 1 else below) (top - 17)

/-! ## Doubles as text

The shortest digits of a double are laid out with a decimal point or with a power of ten. Where the
one ends and the other begins, and what whole numbers look like, is the format's own decision and
stands in a `Layout`, a value that the module writing the output names.
-/

/-- The decisions of one way to write doubles. -/
structure Layout where
  /-- Which of two equally near numerals is written. -/
  tie : Tie
  /-- The powers of ten of a first digit for which the number is written positionally. -/
  positional : Int → Bool
  /-- Whether a whole number keeps a point and a zero behind it. -/
  pointed : Bool
  /-- What stands for no number. -/
  nan : String
  /-- What stands for an infinity, after its sign. -/
  infinity : String
  /-- Whether an infinity shows its sign. -/
  signedInfinity : Bool

/-- Digits around a decimal point. -/
def Numeral.positional (n : Numeral) (pointed : Bool) : List Char :=
  if n.exponent < 0 then
    ['0', '.'] ++ List.replicate (-n.exponent - 1).toNat '0' ++ n.digits
  else
    let whole := n.exponent.toNat + 1
    let padded := n.digits ++ List.replicate (whole - n.digits.length) '0'
    match padded.drop whole with
    | [] => padded ++ (if pointed then ['.', '0'] else [])
    | rest => padded.take whole ++ '.' :: rest

/-- One digit before the point, and a power of ten that always shows its sign. -/
def Numeral.scientific (n : Numeral) : List Char :=
  let mantissa :=
    match n.digits with
    | first :: second :: rest => first :: '.' :: second :: rest
    | digits => digits
  let sign := if n.exponent < 0 then '-' else '+'
  mantissa ++ 'e' :: sign :: Nat.toDigits 10 n.exponent.natAbs

/-- The text of a double under a layout. -/
def Layout.text (layout : Layout) (x : Float) : String :=
  match parts x with
  | .nan => layout.nan
  | .infinite negative =>
    (if negative && layout.signedInfinity then "-" else "") ++ layout.infinity
  | .finite negative mantissa exponent =>
    let numeral := shortest layout.tie mantissa exponent
    let body :=
      if layout.positional numeral.exponent then numeral.positional layout.pointed
      else numeral.scientific
    String.ofList (if negative then '-' :: body else body)

/-! ## Whole numbers near a double

Rounding to the nearest whole number, for percentages that are shown, and cutting toward zero into a
range of integers, for counts that a page hands over as doubles.
-/

/-- The quotient rounded to the nearest integer, a half to the even neighbour. -/
def divHalfEven (value unit : Nat) : Nat :=
  let below := value / unit
  let twice := 2 * (value % unit)
  if unit < twice || (unit == twice && below % 2 == 1) then below + 1 else below

/-- The digits of the nearest whole number, a half going to the even neighbour. The sign of the
double stays, also in front of a zero. -/
def wholeText (x : Float) : String :=
  match parts x with
  | .nan => "NaN"
  | .infinite negative => if negative then "-inf" else "inf"
  | .finite negative mantissa exponent =>
    let rounded := divHalfEven (mantissa * Nat.pow 2 exponent.toNat) (Nat.pow 2 (-exponent).toNat)
    let digits := Nat.toDigits 10 rounded
    String.ofList (if negative then '-' :: digits else digits)

/-- The integer toward zero from a double, kept within `low` and `high`; no number counts as zero,
and an infinity as the end of the range on its side. -/
def truncateTo (low high : Int) (x : Float) : Int :=
  match parts x with
  | .nan => 0
  | .infinite negative => if negative then low else high
  | .finite negative mantissa exponent =>
    let magnitude : Int := (mantissa * Nat.pow 2 exponent.toNat / Nat.pow 2 (-exponent).toNat : Nat)
    max low (min high (if negative then -magnitude else magnitude))

/-! ## Reading a decimal number

The grammar of numbers in free text: a sign, then digits with at most one point among them and at
most one power of ten behind them, or a word for infinity or for no number. The value is the double
nearest to what is written, an infinity where it is too large, a zero where it is too small.
-/

/-- The value of decimal digits read from the left. -/
def natOfDigits (digits : List Char) : Nat :=
  digits.foldl (fun n c => 10 * n + (c.toNat - '0'.toNat)) 0

/-- Positive infinity. -/
def infinity : Float := Float.ofBits 0x7FF0000000000000

/-- The double nearest to `count * 10 ^ exponent`. No double lies beyond 10^309 or, but for zero,
below 10^-324, so powers far outside need no arithmetic. -/
def nearest (count : Nat) (exponent : Int) : Float :=
  let size : Int := (Nat.toDigits 10 count).length + exponent
  if count = 0 || size < -400 then 0
  else if 400 < size then infinity
  else Float.ofScientific count (exponent < 0) exponent.natAbs

/-- The power of ten after its mark: digits with or without a sign. -/
def exponent? (text : List Char) : Option Int :=
  let (negative, digits) :=
    match text with
    | '+' :: rest => (false, rest)
    | '-' :: rest => (true, rest)
    | rest => (false, rest)
  if digits.isEmpty || !digits.all Char.isDigit then none
  else
    let value : Int := natOfDigits digits
    some (if negative then -value else value)

/-- A number written in digits, without a sign. -/
def unsigned? (text : List Char) : Option Float :=
  let whole := text.takeWhile Char.isDigit
  let (fraction, rest) :=
    match text.dropWhile Char.isDigit with
    | '.' :: rest => (rest.takeWhile Char.isDigit, rest.dropWhile Char.isDigit)
    | rest => ([], rest)
  if whole.isEmpty && fraction.isEmpty then none
  else
    let count := natOfDigits (whole ++ fraction)
    let shift : Int := -fraction.length
    match rest with
    | [] => some (nearest count shift)
    | mark :: power =>
      if mark = 'e' ∨ mark = 'E' then
        (exponent? power).map fun exponent => nearest count (shift + exponent)
      else none

/-- A number without its sign: digits, or one of the words in any mixture of cases. -/
def magnitude? (text : List Char) : Option Float :=
  let word := String.ofList (text.map Char.toLower)
  if word = "inf" ∨ word = "infinity" then some infinity
  else if word = "nan" then some (Float.ofBits 0x7FF8000000000000)
  else unsigned? text

/-- The double that a text denotes, if it is a number and nothing else. -/
def number? : List Char → Option Float
  | '+' :: rest => magnitude? rest
  | '-' :: rest => (magnitude? rest).map (-·)
  | text => magnitude? text

end Embed.Decimal
