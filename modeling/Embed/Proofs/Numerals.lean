import Embed.Proofs.ProgressBar
import Embed.Proofs.ReadBack
import Mathlib.Algebra.Order.Field.Power
import Mathlib.Data.List.DropRight
import Mathlib.Data.Rat.Cast.Order
import Mathlib.Tactic.NormNum
import Mathlib.Tactic.Ring
/-!
# Numerals are numbers

The digits of a double are chosen so that they fall near it, and laid out so that they can be read.
How large the chosen numeral is follows from one fact, that a double lies between its ceiling and
the power of ten before it; sizes are compared as rationals, so that places on both sides of the
point are one case. A numeral of at most sixteen whole digits is then read as some number: its
fraction or its power of ten makes the reader divide, and a division never runs out of range. That
it is the same number is not said, since the reader rounds twice. Percentages are such doubles.
-/

namespace Embed.Decimal

/-! ## The size of a numeral -/

/-- An integer power as a quotient of two natural ones, one of which is one. -/
theorem zpow_eq_div (base : ℚ) (power : Int) :
    base ^ power = base ^ power.toNat / base ^ (-power).toNat := by
  obtain ⟨n, rfl | rfl⟩ := power.eq_nat_or_neg
  · simp
  · simp

/-- The double in the middle of a span. -/
def Span.size (s : Span) : ℚ :=
  s.value / s.unit

/-- A span around a double that is not zero. -/
structure Span.Positive (s : Span) : Prop where
  /-- The double is not zero. -/
  value : 0 < s.value
  /-- Nor is the denominator. -/
  unit : 0 < s.unit

/-- The multiples of a power of ten that are at most the size are those that are at most it in
integers. -/
theorem Span.mul_le_size_iff {s : Span} (positive : s.Positive) (count : Nat) (place : Int) :
    count * (10 : ℚ) ^ place ≤ s.size ↔
      count * (s.unit * Nat.pow 10 place.toNat) ≤ s.value * Nat.pow 10 (-place).toNat := by
  have unit : (0 : ℚ) < s.unit := by exact_mod_cast positive.unit
  have finer : (0 : ℚ) < 10 ^ (-place).toNat := by positivity
  rw [Span.size, zpow_eq_div, mul_div_assoc', div_le_div_iff₀ finer unit, ← Nat.cast_le (α := ℚ)]
  simp only [Nat.pow_eq, Nat.cast_mul, Nat.cast_pow, Nat.cast_ofNat]
  rw [mul_assoc, mul_comm (s.unit : ℚ)]

/-- The number of digits of a count bounds it from both sides. -/
theorem count_between {count : Nat} (positive : 0 < count) :
    (10 : ℚ) ^ ((Nat.toDigits 10 count).length - 1 : Int) ≤ count ∧
      (count : ℚ) < 10 ^ ((Nat.toDigits 10 count).length : Int) := by
  have long := @Nat.length_toDigits_pos 10 count
  have fits {k : Nat} := @Nat.length_toDigits_le_iff 10 count k (by decide)
  constructor
  · have lower : 10 ^ ((Nat.toDigits 10 count).length - 1) ≤ count := by
      by_contra above
      rcases Nat.eq_zero_or_pos ((Nat.toDigits 10 count).length - 1) with single | several
      · rw [single] at above
        omega
      · have short := (fits several).mpr (by omega)
        omega
    rw [← Nat.cast_pred long, zpow_natCast]
    exact_mod_cast lower
  · rw [zpow_natCast]
    exact_mod_cast (fits long).mp le_rfl

/-- The size of a double lies below its ceiling, and not below the power of ten before that. -/
theorem Span.size_between {s : Span} (positive : s.Positive) :
    (10 : ℚ) ^ (s.ceiling - 1) ≤ s.size ∧ s.size < 10 ^ s.ceiling := by
  have unit : (0 : ℚ) < s.unit := by exact_mod_cast positive.unit
  obtain ⟨valueLower, valueUpper⟩ := count_between positive.value
  obtain ⟨unitLower, unitUpper⟩ := count_between positive.unit
  have whole := s.mul_le_size_iff positive 1
  unfold Span.ceiling
  generalize (Nat.toDigits 10 s.value).length = high at *
  generalize (Nat.toDigits 10 s.unit).length = low at *
  -- The lengths of numerator and denominator leave two powers of ten, between which the ceiling is
  -- decided by a comparison.
  have lower : (10 : ℚ) ^ ((high : Int) - low - 1) ≤ s.size := by
    rw [Span.size, le_div_iff₀ unit]
    calc (10 : ℚ) ^ ((high : Int) - low - 1) * s.unit
        ≤ 10 ^ ((high : Int) - low - 1) * 10 ^ (low : Int) := by gcongr
      _ = 10 ^ ((high : Int) - 1) := by
        rw [← zpow_add₀ (by norm_num)]
        congr 1
        omega
      _ ≤ s.value := valueLower
  have upper : s.size < (10 : ℚ) ^ ((high : Int) - low + 1) := by
    rw [Span.size, div_lt_iff₀ unit]
    calc (s.value : ℚ) < 10 ^ (high : Int) := valueUpper
      _ = 10 ^ ((high : Int) - low + 1) * 10 ^ ((low : Int) - 1) := by
        rw [← zpow_add₀ (by norm_num)]
        congr 1
        omega
      _ ≤ 10 ^ ((high : Int) - low + 1) * s.unit := by gcongr
  have exact := whole ((high : Int) - low)
  rw [Nat.cast_one, one_mul, one_mul] at exact
  dsimp only
  split
  · rename_i below
    exact ⟨lower, not_le.mp (mt exact.mp (not_le.mpr below))⟩
  · rename_i above
    rw [add_sub_cancel_right]
    exact ⟨exact.mpr (not_lt.mp above), upper⟩

/-- On a grid that is finer than its size, a double has a lower neighbour, which has no more digits
than the places between. -/
theorem Span.neighbours_between {s : Span} (positive : s.Positive) (tie : Tie) (place : Int)
    (finer : place < s.ceiling) :
    0 < (s.neighbours tie place).1 ∧
      (s.neighbours tie place).1 < 10 ^ (s.ceiling - place).toNat := by
  obtain ⟨lower, upper⟩ := s.size_between positive
  have exact (count : Nat) : count ≤ (s.neighbours tie place).1 ↔ count * 10 ^ place ≤ s.size := by
    rw [s.mul_le_size_iff positive]
    exact Nat.le_div_iff_mul_le (Nat.mul_pos positive.unit (Nat.pow_pos (by decide)))
  constructor
  · refine (exact 1).mpr ?_
    rw [Nat.cast_one, one_mul]
    exact le_trans (zpow_le_zpow_right₀ (by norm_num) (by omega)) lower
  · rw [← not_le, exact]
    have split : s.ceiling = ((s.ceiling - place).toNat : Int) + place := by omega
    rw [Nat.cast_pow, Nat.cast_ofNat, ← zpow_natCast, ← zpow_add₀ (by norm_num), ← split]
    exact not_le.mpr upper

/-- A numeral on a grid counts one of the double's two neighbours. -/
theorem Span.numeral?_count {s : Span} {tie : Tie} {place : Int} {n : Numeral}
    (found : s.numeral? tie place = some n) :
    ∃ count, n = .ofCount count place ∧
      (count = (s.neighbours tie place).1 ∨ count = (s.neighbours tie place).1 + 1) := by
  unfold Span.numeral? at found
  generalize s.neighbours tie place = around at *
  obtain ⟨below, lower, upper, upward⟩ := around
  cases lower with
  | false =>
    cases upper with
    | false => simp at found
    | true => exact ⟨below + 1, (Option.some.inj found).symm, Or.inr rfl⟩
  | true =>
    cases upper with
    | false => exact ⟨below, (Option.some.inj found).symm, Or.inl rfl⟩
    | true =>
      refine ⟨_, (Option.some.inj found).symm, ?_⟩
      cases upward with
      | false => exact Or.inl rfl
      | true => exact Or.inr rfl

/-- The span of a double that is not zero. -/
theorem Span.positive_ofParts {mantissa : Nat} (positive : 0 < mantissa) (exponent : Int) :
    (Span.ofParts mantissa exponent).Positive where
  value := Nat.mul_pos (Nat.mul_pos (by decide) positive) (Nat.pow_pos (by decide))
  unit := Nat.pow_pos (by decide)

/-- The shortest numeral of a double that is not zero counts something on a grid finer than it, and
not more than a power of ten at the double's ceiling does. -/
theorem shortest_count (tie : Tie) {mantissa : Nat} (positive : 0 < mantissa) (exponent : Int) :
    ∃ count place, shortest tie mantissa exponent = .ofCount count place ∧ 0 < count ∧
      place < (Span.ofParts mantissa exponent).ceiling ∧
      count ≤ 10 ^ ((Span.ofParts mantissa exponent).ceiling - place).toNat := by
  have around := Span.positive_ofParts positive exponent
  unfold shortest
  rw [if_neg (by omega)]
  generalize Span.ofParts mantissa exponent = s at *
  dsimp only
  cases found : (List.range 16).findSome? fun n => s.numeral? tie (s.ceiling - (n + 1 : Nat)) with
  | some numeral =>
    obtain ⟨digits, -, here⟩ := List.exists_of_findSome?_eq_some found
    obtain ⟨count, rfl, near⟩ := Span.numeral?_count here
    have between := s.neighbours_between around tie (s.ceiling - (digits + 1 : Nat)) (by omega)
    exact ⟨count, _, rfl, by omega, by omega, by omega⟩
  | none =>
    have between := s.neighbours_between around tie (s.ceiling - 17) (by omega)
    refine ⟨_, s.ceiling - 17, rfl, ?_, by omega, ?_⟩ <;> split <;> omega

/-- The span of a double is around it. -/
theorem Span.size_ofParts (mantissa : Nat) (exponent : Int) :
    (Span.ofParts mantissa exponent).size = mantissa * 2 ^ exponent := by
  have power : (2 : ℚ) ^ exponent = 2 ^ (exponent - 2) * 4 := by
    rw [zpow_sub₀ (by norm_num)]
    norm_num
  rw [power, zpow_eq_div, neg_sub]
  simp only [Span.size, Span.ofParts, Nat.pow_eq, Nat.cast_mul, Nat.cast_pow, Nat.cast_ofNat]
  ring

/-- A double below a power of ten has its ceiling there or below. -/
theorem Span.ceiling_ofParts_le {mantissa : Nat} (positive : 0 < mantissa) {exponent : Int}
    {power : Nat} (small : mantissa * (2 : ℚ) ^ exponent < 10 ^ power) :
    (Span.ofParts mantissa exponent).ceiling ≤ power := by
  obtain ⟨lower, -⟩ := Span.size_between (Span.positive_ofParts positive exponent)
  rw [Span.size_ofParts] at lower
  rw [← zpow_natCast] at small
  have before := (zpow_lt_zpow_iff_right₀ (by norm_num)).mp (lower.trans_lt small)
  omega

/-! ## The digits of a numeral -/

/-- Digits, the first of which is a zero only in the numeral of zero. -/
structure Numeral.Proper (n : Numeral) : Prop where
  /-- There is a first digit, and a zero stands alone. -/
  leading : ∃ first others, n.digits = first :: others ∧ (first = '0' → n = .zero)
  /-- There are digits only. -/
  digits : ∀ c ∈ n.digits, c.isDigit = true

/-- The numeral of a count has the digits of the count, but for zeros at the end. -/
theorem Numeral.proper_ofCount {count : Nat} (positive : 0 < count) (place : Int) :
    (Numeral.ofCount count place).Proper := by
  obtain ⟨first, others, written, -, nonzero⟩ := Json.first_digit count
  have front : (Numeral.ofCount count place).digits <+: Nat.toDigits 10 count :=
    List.rdropWhile_prefix (· == '0') _
  have some : (Numeral.ofCount count place).digits ≠ [] := by
    intro empty
    have zeros := List.rdropWhile_eq_nil_iff.mp empty first (written ▸ List.mem_cons_self)
    exact nonzero positive (eq_of_beq zeros)
  refine ⟨?_, fun c inside =>
    Nat.isDigit_of_mem_toDigits (by decide) (by decide) (front.subset inside)⟩
  obtain ⟨head, tail, digits⟩ := List.exists_cons_of_ne_nil some
  rw [digits, written] at front
  obtain ⟨rfl, -⟩ := List.cons_prefix_cons.mp front
  exact ⟨head, tail, digits, fun zero => absurd zero (nonzero positive)⟩

/-- The first digit of a count up to a power of ten stands at that power or below. -/
theorem Numeral.exponent_ofCount_le {count digits : Nat} (small : count ≤ 10 ^ digits)
    (place : Int) : (Numeral.ofCount count place).exponent ≤ place + digits := by
  have short : (Nat.toDigits 10 count).length ≤ digits + 1 := by
    refine (Nat.length_toDigits_le_iff (by decide) (by omega)).mpr ?_
    have := Nat.pow_pos (n := digits) (show 0 < 10 by decide)
    omega
  change place + ((Nat.toDigits 10 count).length - 1 : Nat) ≤ _
  omega

/-- Zeros are digits. -/
theorem isDigit_of_mem_zeros {count : Nat} : ∀ c ∈ List.replicate count '0', c.isDigit = true := by
  intro c inside
  rw [List.eq_of_mem_replicate inside]
  rfl

/-- The shortest numeral of a double is a proper one. -/
theorem proper_shortest (tie : Tie) (mantissa : Nat) (exponent : Int) :
    (shortest tie mantissa exponent).Proper := by
  rcases Nat.eq_zero_or_pos mantissa with rfl | positive
  · exact ⟨⟨'0', [], rfl, fun _ => rfl⟩, @isDigit_of_mem_zeros 1⟩
  · obtain ⟨count, place, same, some, -⟩ := shortest_count tie positive exponent
    rw [same]
    exact Numeral.proper_ofCount some place

/-- The shortest numeral of a double below a power of ten begins at that power or below: rounding
to fewer digits may reach it. -/
theorem exponent_shortest_le (tie : Tie) {mantissa : Nat} {exponent : Int} {power : Nat}
    (small : mantissa * (2 : ℚ) ^ exponent < 10 ^ power) :
    (shortest tie mantissa exponent).exponent ≤ power := by
  rcases Nat.eq_zero_or_pos mantissa with rfl | positive
  · exact Int.natCast_nonneg power
  · obtain ⟨count, place, same, -, finer, bounded⟩ := shortest_count tie positive exponent
    have reached := Numeral.exponent_ofCount_le bounded place
    have top := Span.ceiling_ofParts_le positive small
    rw [same]
    omega

end Embed.Decimal

namespace Embed.Json

/-! ## Reading with a power of ten below one -/

/-- Dividing by a power of ten always gives a double. -/
theorem scale_of_negative (x : Float) {exponent : Int} (negative : exponent < 0) :
    ∃ y, scale x exponent = some y := by
  fun_induction scale x exponent with
  | case1 | case2 => omega
  | case3 x exponent => exact ⟨_, rfl⟩
  | case4 x => exact ⟨x, rfl⟩
  | case5 => omega
  | case6 x exponent far _ _ ih => exact ih (by omega)

/-- A number is read, whichever it is, and this is the rest of its text. -/
def ReadsUpTo (rest : List Char) (read : Outcome Number) : Prop :=
  ∃ n, read = .ok (n, rest)

/-- A significand is read with every power of ten below one. -/
theorem readsUpTo_doubleOf (negative : Bool) (significand : Nat) {exponent : Int}
    (below : exponent < 0) (rest : List Char) :
    ReadsUpTo rest (doubleOf negative significand exponent rest) := by
  obtain ⟨y, scaled⟩ := scale_of_negative (Float.ofNat significand) below
  exact ⟨_, by rw [doubleOf, scaled]⟩

/-- Digits that are all read are counted. -/
theorem count_of_accumulate {limit count size : Nat} {digits : List Char}
    (all : accumulate limit count digits = (size, [])) :
    size = Nat.ofDigitChars 10 digits count := by
  induction digits generalizing count with
  | nil =>
    rw [accumulate, Prod.mk.injEq] at all
    rw [Nat.ofDigitChars_nil]
    exact all.1.symm
  | cons digit digits ih =>
    rw [accumulate] at all
    split at all
    · rw [Nat.ofDigitChars_cons]
      exact ih all
    · simp at all

/-- No more digits are left than there were. -/
theorem accumulate_length (limit count : Nat) (digits : List Char) :
    (accumulate limit count digits).2.length ≤ digits.length := by
  fun_induction accumulate limit count digits with
  | case1 => exact le_rfl
  | case2 count digit digits _ _ ih => exact ih.trans (Nat.le_succ _)
  | case3 => exact le_rfl

/-- The value of a digit. -/
theorem digit_le {c : Char} (digit : c.isDigit = true) : c.toNat - '0'.toNat ≤ 9 := by
  have bounds := Char.isDigit_iff_toNat.mp digit
  have zero : '0'.toNat = 48 := rfl
  have nine : '9'.toNat = 57 := rfl
  omega

/-- The first of some digits is read if any digit still fits. -/
theorem accumulate_shorter {limit count : Nat} (room : 10 * count + 9 < limit) {digits : List Char}
    (some : digits ≠ []) (all : ∀ c ∈ digits, c.isDigit = true) :
    (accumulate limit count digits).2.length < digits.length := by
  obtain ⟨first, others, rfl⟩ := List.exists_cons_of_ne_nil some
  have value := digit_le (all first List.mem_cons_self)
  rw [accumulate, if_pos (by omega)]
  exact Nat.lt_succ_of_le (accumulate_length ..)

/-- What may stand behind the digits of a numeral: nothing, or a power of ten with a minus. -/
inductive Lowered : List Char → List Char → Prop
  /-- The value ends. -/
  | none {rest : List Char} (ends : Ends rest) : Lowered rest rest
  /-- A power of ten below one. -/
  | power {size : Nat} (positive : 0 < size) {rest : List Char} (ends : Ends rest) :
      Lowered ('e' :: '-' :: (Nat.toDigits 10 size ++ rest)) rest

/-- No digit stands where the digits of a numeral end. -/
theorem Lowered.stops {text rest : List Char} (lowered : Lowered text rest) :
    leadingDigits text = [] := by
  cases lowered with
  | none ends => exact leadingDigits_of_ends ends
  | power => rfl

/-- A power of ten below one is read, also one that is too small to be told from none. -/
theorem readsUpTo_power (negative : Bool) (significand : Nat) {exponent : Int}
    (low : exponent ≤ 0) {size : Nat} (positive : 0 < size) {rest : List Char} (ends : Ends rest) :
    ReadsUpTo rest
      (power negative significand exponent ('-' :: (Nat.toDigits 10 size ++ rest))) := by
  have all : ∀ c ∈ Nat.toDigits 10 size, c.isDigit = true := fun c member =>
    Nat.isDigit_of_mem_toDigits (by decide) (by decide) member
  obtain ⟨leading, after⟩ := digits_append all (leadingDigits_of_ends ends)
  obtain ⟨first, others, digits, digit, -⟩ := first_digit size
  have counted {read : Nat}
      (complete : accumulate 0x80000000 0 (Nat.toDigits 10 size) = (read, [])) : read = size :=
    (count_of_accumulate complete).trans Nat.ofDigitChars_ten_toDigits
  unfold power
  rw [powerSign]
  dsimp only
  rw [leading, after, digits, List.cons_append]
  simp only [digit, Bool.not_true, Bool.false_eq_true, if_false, if_true]
  rw [← digits]
  split
  · rename_i read complete
    rw [counted complete]
    exact readsUpTo_doubleOf negative significand (by omega) rest
  · -- A power that does not fit has a minus here, so it makes the number a zero and no error.
    exact ⟨.double (if negative then -0.0 else 0.0), by simp⟩

/-- What stands behind the digits of a fraction is read. -/
theorem readsUpTo_optionalPower (negative : Bool) (significand : Nat) {exponent : Int}
    (below : exponent < 0) {text rest : List Char} (lowered : Lowered text rest) :
    ReadsUpTo rest (optionalPower negative significand exponent text) := by
  cases lowered with
  | none ends =>
    have same : optionalPower negative significand exponent text =
        doubleOf negative significand exponent text := by
      rcases ends with rfl | ⟨tail, rfl | rfl | rfl⟩ <;> rfl
    rw [same]
    exact readsUpTo_doubleOf negative significand below text
  | power positive ends => exact readsUpTo_power negative significand below.le positive ends

/-- A fraction is read if the significand has room for its first digit, which lowers the power of
ten. -/
theorem readsUpTo_fraction (negative : Bool) {significand : Nat}
    (room : 10 * significand + 9 < 0x10000000000000000) {digits text rest : List Char}
    (some : digits ≠ []) (all : ∀ c ∈ digits, c.isDigit = true) (lowered : Lowered text rest) :
    ReadsUpTo rest (fraction negative significand 0 (digits ++ text)) := by
  obtain ⟨leading, after⟩ := digits_append all lowered.stops
  have shorter := accumulate_shorter room some all
  unfold fraction
  rw [leading, after]
  simp only [List.isEmpty_eq_false_iff.mpr some, Bool.false_eq_true, if_false]
  exact readsUpTo_optionalPower negative _ (by omega) lowered

/-- A whole part, its point and a fraction are read. -/
theorem readsUpTo_pointed (negative : Bool) {whole digits text rest : List Char}
    (isWhole : IsWhole whole)
    (room : 10 * Nat.ofDigitChars 10 whole 0 + 9 < 0x10000000000000000)
    (some : digits ≠ []) (all : ∀ c ∈ digits, c.isDigit = true) (lowered : Lowered text rest) :
    ReadsUpTo rest (unsigned negative (whole ++ '.' :: (digits ++ text))) := by
  rw [unsigned_of_whole negative isWhole rfl, afterWhole, accumulate_all (by omega)]
  exact readsUpTo_fraction negative room some all lowered

/-- A whole part that fits the significand is read with a power of ten below one. -/
theorem readsUpTo_whole (negative : Bool) {whole rest : List Char} (isWhole : IsWhole whole)
    (room : Nat.ofDigitChars 10 whole 0 < 0x10000000000000000) {size : Nat} (positive : 0 < size)
    (ends : Ends rest) :
    ReadsUpTo rest
      (unsigned negative (whole ++ 'e' :: '-' :: (Nat.toDigits 10 size ++ rest))) := by
  rw [unsigned_of_whole negative isWhole rfl, afterWhole, accumulate_all room]
  exact readsUpTo_power negative _ le_rfl positive ends

/-! ## Reading numerals -/

/-- Digits count less than the power of ten that has one digit more. -/
theorem ofDigitChars_lt {digits : List Char} (all : ∀ c ∈ digits, c.isDigit = true) (count : Nat) :
    Nat.ofDigitChars 10 digits count < (count + 1) * 10 ^ digits.length := by
  induction digits generalizing count with
  | nil => simp
  | cons digit digits ih =>
    have value := digit_le (all digit List.mem_cons_self)
    have others := ih (fun c inside => all c (List.mem_cons_of_mem _ inside))
      (10 * count + (digit.toNat - '0'.toNat))
    rw [Nat.ofDigitChars_cons, List.length_cons, Nat.pow_succ]
    calc _ < (10 * count + (digit.toNat - '0'.toNat) + 1) * 10 ^ digits.length := others
      _ ≤ (10 * (count + 1)) * 10 ^ digits.length := Nat.mul_le_mul_right _ (by omega)
      _ = (count + 1) * (10 ^ digits.length * 10) := by ring

open Decimal

/-- Digits as a whole part, of which a first zero would have to be the only one. -/
theorem isWhole_cons {first : Char} {others : List Char}
    (alone : first = '0' → others = []) (all : ∀ c ∈ first :: others, c.isDigit = true) :
    IsWhole (first :: others) := by
  by_cases zero : first = '0'
  · exact Or.inl (by rw [zero, alone zero])
  · exact Or.inr ⟨⟨first, others, rfl, zero⟩, all⟩

/-- From one on, a numeral has the digits of its whole part before the point, and some digits
behind it. -/
theorem positional_split {n : Numeral} (proper : n.Proper) (nonneg : 0 ≤ n.exponent) :
    ∃ whole digits, n.positional true = whole ++ '.' :: digits ∧ IsWhole whole ∧
      (∀ c ∈ whole, c.isDigit = true) ∧ whole.length ≤ n.exponent.toNat + 1 ∧
      digits ≠ [] ∧ ∀ c ∈ digits, c.isDigit = true := by
  let size := n.exponent.toNat + 1
  let padded := n.digits ++ List.replicate (size - n.digits.length) '0'
  have all : ∀ c ∈ padded, c.isDigit = true := by
    intro c inside
    rcases List.mem_append.mp inside with digit | zero
    · exact proper.digits c digit
    · exact isDigit_of_mem_zeros c zero
  have before : ∀ c ∈ padded.take size, c.isDigit = true := fun c inside =>
    all c (List.mem_of_mem_take inside)
  have isWhole : IsWhole (padded.take size) := by
    obtain ⟨first, others, digits, zero⟩ := proper.leading
    have front : padded.take size = first :: (others ++ List.replicate
        (size - n.digits.length) '0').take n.exponent.toNat := by
      simp only [padded, digits, List.cons_append, size, List.take_succ_cons]
    rw [front] at before ⊢
    refine isWhole_cons (fun isZero => ?_) before
    rw [zero isZero]
    rfl
  have short : (padded.take size).length ≤ size := List.length_take_le size padded
  unfold Numeral.positional
  rw [if_neg (not_lt.mpr nonneg)]
  dsimp only
  split
  · rename_i behind
    have complete : padded.take size = padded := by
      rw [← List.append_nil (padded.take size), ← behind, List.take_append_drop]
    rw [complete] at isWhole before short
    exact ⟨padded, ['0'], rfl, isWhole, before, short, by simp, @isDigit_of_mem_zeros 1⟩
  · rename_i some
    exact ⟨padded.take size, padded.drop size, rfl, isWhole, before, short, some,
      fun c inside => all c (List.mem_of_mem_drop inside)⟩

/-- A numeral of at most sixteen whole digits is read from its positional form. -/
theorem readsUpTo_positional (negative : Bool) {n : Numeral} (proper : n.Proper)
    (small : n.exponent < 16) {rest : List Char} (ends : Ends rest) :
    ReadsUpTo rest (unsigned negative (n.positional true ++ rest)) := by
  by_cases below : n.exponent < 0
  · let digits := List.replicate (-n.exponent - 1).toNat '0' ++ n.digits
    have all : ∀ c ∈ digits, c.isDigit = true := by
      intro c inside
      rcases List.mem_append.mp inside with zero | digit
      · exact isDigit_of_mem_zeros c zero
      · exact proper.digits c digit
    have some : digits ≠ [] := by
      obtain ⟨first, others, written, -⟩ := proper.leading
      simp [digits, written]
    have split : n.positional true ++ rest = ['0'] ++ '.' :: (digits ++ rest) := by
      simp [Numeral.positional, below, digits]
    rw [split]
    exact readsUpTo_pointed negative (Or.inl rfl) (by decide) some all (.none ends)
  · obtain ⟨whole, digits, split, isWhole, all, short, some, others⟩ :=
      positional_split proper (not_lt.mp below)
    have room : Nat.ofDigitChars 10 whole 0 < 10 ^ 16 :=
      calc _ < (0 + 1) * 10 ^ whole.length := ofDigitChars_lt all 0
        _ = 10 ^ whole.length := by ring
        _ ≤ 10 ^ 16 := Nat.pow_le_pow_right (by decide) (by omega)
    rw [split, List.append_assoc, List.cons_append]
    exact readsUpTo_pointed negative isWhole (by omega) some others (.none ends)

/-- A numeral below one is read from its scientific form. -/
theorem readsUpTo_scientific (negative : Bool) {n : Numeral} (proper : n.Proper)
    (below : n.exponent < 0) {rest : List Char} (ends : Ends rest) :
    ReadsUpTo rest (unsigned negative (n.scientific ++ rest)) := by
  obtain ⟨first, others, digits, -⟩ := proper.leading
  have all := proper.digits
  have size : 0 < n.exponent.natAbs := by omega
  have whole : IsWhole [first] := isWhole_cons (fun _ => rfl) fun c inside =>
    all c (by rw [digits]; exact List.mem_cons.mpr (Or.inl (List.mem_singleton.mp inside)))
  have value : Nat.ofDigitChars 10 [first] 0 ≤ 9 := by
    rw [Nat.ofDigitChars_cons, Nat.ofDigitChars_nil, Nat.mul_zero, Nat.zero_add]
    exact digit_le (all first (by simp [digits]))
  unfold Numeral.scientific
  rw [if_pos below, digits]
  cases others with
  | nil => exact readsUpTo_whole negative whole (by omega) size ends
  | cons second others =>
    have fraction : ∀ c ∈ second :: others, c.isDigit = true := fun c inside =>
      all c (by rw [digits]; exact List.mem_cons_of_mem _ inside)
    have read := readsUpTo_pointed negative whole (by omega) (List.cons_ne_nil second others)
      fraction (.power size ends)
    simpa using read

/-- A double of at most sixteen whole digits is read from its text. -/
theorem stands_double {x : Float} {negative : Bool} {mantissa : Nat} {exponent : Int}
    (finite : parts x = .finite negative mantissa exponent)
    (small : mantissa * (2 : ℚ) ^ exponent < 10 ^ 15) {rest : List Char} (ends : Ends rest) :
    ∃ n, Stands ((Number.double x).chars ++ rest) (.number n) rest := by
  let numeral := shortest .even mantissa exponent
  have proper : numeral.Proper := proper_shortest .even mantissa exponent
  have high : numeral.exponent ≤ 15 := exponent_shortest_le .even small
  let body := if doubleLayout.positional numeral.exponent then numeral.positional true
    else numeral.scientific
  have read (minus : Bool) : ReadsUpTo rest (unsigned minus (body ++ rest)) := by
    by_cases positional : doubleLayout.positional numeral.exponent
    · simp only [body, if_pos positional]
      exact readsUpTo_positional minus proper (by omega) ends
    · have below : numeral.exponent < 0 := by
        simp only [doubleLayout, Bool.and_eq_true, decide_eq_true_iff, not_and] at positional
        omega
      simp only [body, if_neg positional]
      exact readsUpTo_scientific minus proper below ends
  have text : (Number.double x).chars = if negative then '-' :: body else body := by
    simp only [Number.chars, Layout.text, finite, String.toList_ofList]
    rfl
  obtain ⟨n, whole⟩ := read negative
  refine ⟨n, stands_of_number ?_⟩
  rw [text]
  cases negative with
  | true => exact whole
  | false =>
    obtain ⟨first, others, split, digit⟩ := digit_of_unsigned whole
    rw [if_neg Bool.false_ne_true, split, number_of_digit digit, ← split]
    exact whole

end Embed.Json

namespace Embed

open Decimal (parts)
open Float.Model (Format UnpackedFloat)
open Float.Model.UnpackedFloat (unpackExponent)

/-! ## Percentages -/

/-- The exponent field of a double. -/
theorem toNat_unpackExponent (x : Float) :
    (@unpackExponent Format.binary64 x.toModel.toBits.toBitVec).toNat =
      x.toBits.toNat / 0x10000000000000 % 0x800 := by
  simp only [unpackExponent, BitVec.toNat_cast, BitVec.extractLsb_toNat, Nat.shiftRight_eq_div_pow]
  rfl

/-- A double whose exponent field is full is no finite number. -/
theorem unpack_of_full {x : Float} (full : x.toBits.toNat / 0x10000000000000 % 0x800 = 0x7ff) :
    x.toModel.unpack = .notANumber ∨ ∃ sign, x.toModel.unpack = .infinity sign := by
  have exponent : @unpackExponent Format.binary64 x.toModel.toBits.toBitVec = -1#_ := by
    rw [← BitVec.toNat_inj, toNat_unpackExponent, full]
    rfl
  unfold Float.Model.unpack UnpackedFloat.unpack
  dsimp only
  rw [if_pos exponent]
  split
  · exact Or.inr ⟨_, rfl⟩
  · exact Or.inl rfl

/-- A double whose exponent field is neither full nor empty has the exponent that the field says. -/
theorem unpack_of_normal {x : Float} (some : x.toBits.toNat / 0x10000000000000 % 0x800 ≠ 0)
    (free : x.toBits.toNat / 0x10000000000000 % 0x800 ≠ 0x7ff) :
    ∃ sign mantissa positive, x.toModel.unpack = .finite sign mantissa
      ((x.toBits.toNat / 0x10000000000000 % 0x800 : Nat) - 1075) positive := by
  have notFull : @unpackExponent Format.binary64 x.toModel.toBits.toBitVec ≠ -1#_ := by
    rw [Ne, ← BitVec.toNat_inj, toNat_unpackExponent]
    exact free
  have notEmpty : @unpackExponent Format.binary64 x.toModel.toBits.toBitVec ≠ 0#_ := by
    rw [Ne, ← BitVec.toNat_inj, toNat_unpackExponent]
    exact some
  unfold Float.Model.unpack UnpackedFloat.unpack
  dsimp only
  rw [if_neg notFull, if_neg notEmpty, toNat_unpackExponent]
  refine ⟨_, _, ?_, rfl⟩
  rw [BitVec.toNat_append]
  exact Nat.lt_of_lt_of_le (by decide) Nat.left_le_or

/-- Doubles are compared as what their bits stand for. -/
theorem float_lt_iff (x y : Float) : x < y ↔ x.toModel.unpack.lt y.toModel.unpack = true :=
  decide_eq_true_iff

/-- What the bits of zero stand for. -/
theorem unpack_zero : (0.0 : Float).toModel.unpack = .zero .positive := rfl

/-- What the bits of a hundred stand for: the mantissa has 53 bits, 46 of them behind the point. -/
theorem unpack_hundred :
    (100.0 : Float).toModel.unpack = .finite .positive 7036874417766400 (-46) (by decide) := rfl

namespace IsPercentage

variable {x : Float}

/-- A percentage is a number. -/
theorem unpack_ne_notANumber (percentage : IsPercentage x) : x.toModel.unpack ≠ .notANumber := by
  intro none
  have unknown : x.isNaN = true := by
    change x.toModel.unpack.isNaN = true
    rw [none]
    rfl
  rw [percentage.number] at unknown
  contradiction

/-- A percentage is finite. -/
theorem unpack_ne_infinity (percentage : IsPercentage x) (sign : UnpackedFloat.Sign) :
    x.toModel.unpack ≠ .infinity sign := by
  intro infinite
  cases sign with
  | negative =>
    apply percentage.nonnegative
    rw [float_lt_iff, infinite, unpack_zero]
    rfl
  | positive =>
    apply percentage.bounded
    rw [float_lt_iff, infinite, unpack_hundred]
    rfl

/-- A percentage has no greater exponent than a hundred. -/
theorem exponent_le (percentage : IsPercentage x) {sign : UnpackedFloat.Sign} {mantissa : Nat}
    {exponent : Int} {positive : 0 < mantissa}
    (finite : x.toModel.unpack = .finite sign mantissa exponent positive) : exponent ≤ -46 := by
  cases sign with
  | negative =>
    have below : x < 0.0 := by
      rw [float_lt_iff, finite, unpack_zero]
      rfl
    exact absurd below percentage.nonnegative
  | positive =>
    by_contra larger
    have order : compare (-46) exponent = .lt := Int.compare_eq_lt.mpr (by omega)
    have above : 100.0 < x := by
      rw [float_lt_iff, finite, unpack_hundred]
      change (some ((compare (-46) exponent).then (compare 7036874417766400 mantissa)) ==
        some Ordering.lt) = true
      rw [order]
      rfl
    exact percentage.bounded above

/-- A percentage is a mantissa of at most 53 bits, no fewer than 46 of them behind the point. -/
theorem parts_eq (percentage : IsPercentage x) :
    ∃ negative mantissa exponent, parts x = .finite negative mantissa exponent ∧
      mantissa < 2 ^ 53 ∧ exponent ≤ -46 := by
  have fraction : x.toBits.toNat % 0x10000000000000 < 0x10000000000000 :=
    Nat.mod_lt _ (by decide)
  by_cases full : x.toBits.toNat / 0x10000000000000 % 0x800 = 0x7ff
  · rcases unpack_of_full full with none | ⟨sign, infinite⟩
    · exact absurd none percentage.unpack_ne_notANumber
    · exact absurd infinite (percentage.unpack_ne_infinity sign)
  · unfold parts
    dsimp only
    rw [if_neg full]
    by_cases empty : x.toBits.toNat / 0x10000000000000 % 0x800 = 0
    · rw [if_pos empty]
      exact ⟨_, _, _, rfl, by omega, by decide⟩
    · rw [if_neg empty]
      obtain ⟨sign, mantissa, positive, finite⟩ := unpack_of_normal empty full
      exact ⟨_, _, _, rfl, by omega, percentage.exponent_le finite⟩

/-- A percentage is read as a number from its text. -/
theorem stands (percentage : IsPercentage x) {rest : List Char} (ends : Json.Ends rest) :
    ∃ n, Json.Stands ((Json.Number.double x).chars ++ rest) (.number n) rest := by
  obtain ⟨negative, mantissa, exponent, finite, short, low⟩ := percentage.parts_eq
  refine Json.stands_double finite ?_ ends
  have bits : (mantissa : ℚ) ≤ 2 ^ (53 : Int) := by exact_mod_cast short.le
  calc (mantissa : ℚ) * 2 ^ exponent ≤ 2 ^ (53 : Int) * 2 ^ (-46 : Int) := by
        gcongr
        norm_num
    _ < 10 ^ 15 := by norm_num

end IsPercentage

end Embed
