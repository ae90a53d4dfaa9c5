import Embed.Json.Printer
import Embed.Proofs.Writing
/-!
# Reading what was written

A value stands in its compact text, whatever follows it, as long as what follows cannot go on with
the value. The laws go up with the grammar: characters and strings, digits and integers, items and
members, values. Three things keep a value from being read back as it stands. Doubles are left out
here, since their digits are read with roundings of their own. Nesting that is too deep is refused.
Members come back in the order of their keys, so that only `tidy` values come back the same.
-/

namespace Embed.Json

/-! ## Strings -/

/-- The two digits of a control character's code are read back. -/
theorem hexValue?_control : ∀ code < 0x20,
    hexValue? '0' '0' (hexChar (code / 16)) (hexChar code) = some code := by
  decide

/-- Four digits take at least four bytes, so that they are looked at. -/
theorem hexFour_of_value {a b c d : Char} {code : Nat} (digits : hexValue? a b c d = some code)
    (rest : List Char) : hexFour (a :: b :: c :: d :: rest) = .ok (code, rest) := by
  have long : ¬ Text.byteLength (a :: b :: c :: d :: rest) < 4 := by
    have first := a.utf8Size_pos
    have second := b.utf8Size_pos
    have third := c.utf8Size_pos
    have fourth := d.utf8Size_pos
    simp only [Text.byteLength, List.foldr_cons]
    omega
  rw [hexFour, if_neg long]
  simp only [digits]

/-- A control character is read back from its code. -/
theorem codeEscape_control {c : Char} (control : c.toNat < 0x20) (rest : List Char) :
    codeEscape ('0' :: '0' :: hexChar (c.toNat / 16) :: hexChar c.toNat :: rest) =
      .ok (c, rest) := by
  have four := hexFour_of_value (hexValue?_control c.toNat control) rest
  have second : isTrailing c.toNat = false := by
    simp only [isTrailing, Bool.and_eq_false_iff, decide_eq_false_iff_not]
    omega
  have first : isLeading c.toNat = false := by
    simp only [isLeading, Bool.and_eq_false_iff, decide_eq_false_iff_not]
    omega
  rw [codeEscape, four]
  simp [second, first]

/-- A character is written as a letter behind a backslash, as its code, or as itself. -/
theorem escapedChar_cases (c : Char) :
    (∃ letter, escapedChar c = ['\\', letter] ∧ letterEscape? letter = some c) ∨
    (c.toNat < 0x20 ∧ escapedChar c =
      ['\\', 'u', '0', '0', hexChar (c.toNat / 16), hexChar c.toNat]) ∨
    (c ≠ '"' ∧ c ≠ '\\' ∧ ¬ c.toNat < 0x20 ∧ escapedChar c = [c]) := by
  by_cases lettered : c ∈ ['"', '\\', '\x08', '\x0c', '\n', '\r', '\t']
  · simp only [List.mem_cons, List.not_mem_nil, or_false] at lettered
    rcases lettered with rfl | rfl | rfl | rfl | rfl | rfl | rfl <;>
      exact Or.inl ⟨_, rfl, rfl⟩
  · simp only [List.mem_cons, List.not_mem_nil, or_false, not_or] at lettered
    obtain ⟨quote, slash, backspace, feed, line, back, tab⟩ := lettered
    unfold escapedChar
    rw [if_neg quote, if_neg slash, if_neg backspace, if_neg feed, if_neg line, if_neg back,
      if_neg tab]
    by_cases control : c.toNat < 0x20
    · rw [if_pos control]
      exact Or.inr (Or.inl ⟨control, rfl⟩)
    · rw [if_neg control]
      exact Or.inr (Or.inr ⟨quote, slash, control, rfl⟩)

/-- A string goes on behind an escape. -/
theorem stringBody_escape {text rest : List Char} {c : Char} (meant : escape text = .ok (c, rest)) :
    stringBody ('\\' :: text) = .cons c (stringBody rest) := by
  rw [stringBody]
  simp only [Char.reduceEq, if_true, if_false]
  split <;> rename_i read <;> rw [meant] at read <;> cases read
  rfl

/-- A character is read back, and the string goes on behind it. -/
theorem stringBody_escapedChar (c : Char) (rest : List Char) :
    stringBody (escapedChar c ++ rest) = .cons c (stringBody rest) := by
  rcases escapedChar_cases c with ⟨letter, written, meant⟩ | ⟨control, written⟩ |
    ⟨quote, slash, printable, written⟩
  · have read : escape (letter :: rest) = .ok (c, rest) := by
      simp only [escape, meant]
    rw [written]
    exact stringBody_escape read
  · have read : escape ('u' :: '0' :: '0' :: hexChar (c.toNat / 16) :: hexChar c.toNat :: rest) =
        .ok (c, rest) := codeEscape_control control rest
    rw [written]
    exact stringBody_escape read
  · rw [written, List.singleton_append, stringBody]
    simp only [quote, slash, printable, if_false]

/-- The characters of a string are read back up to its closing quote. -/
theorem stringBody_chars (chars rest : List Char) :
    stringBody (chars.flatMap escapedChar ++ '"' :: rest) = .ok (chars, rest) := by
  induction chars with
  | nil =>
    rw [List.flatMap_nil, List.nil_append, stringBody]
    rfl
  | cons c chars ih =>
    rw [List.flatMap_cons, List.append_assoc, stringBody_escapedChar, ih]
    rfl

/-- The characters of a string, its opening quote apart. -/
theorem stringChars_append (s : String) (rest : List Char) :
    stringChars s ++ rest = '"' :: (s.toList.flatMap escapedChar ++ '"' :: rest) := by
  simp [stringChars]

/-! ## Integers -/

/-- Digits only make a count larger. -/
theorem le_ofDigitChars (digits : List Char) (count : Nat) :
    count ≤ Nat.ofDigitChars 10 digits count := by
  induction digits generalizing count with
  | nil => simp
  | cons digit digits ih =>
    rw [Nat.ofDigitChars_cons]
    have grown := ih (10 * count + (digit.toNat - '0'.toNat))
    omega

/-- Digits whose count stays below the limit are all read. -/
theorem accumulate_all {limit count : Nat} {digits : List Char}
    (small : Nat.ofDigitChars 10 digits count < limit) :
    accumulate limit count digits = (Nat.ofDigitChars 10 digits count, []) := by
  induction digits generalizing count with
  | nil => simp [accumulate]
  | cons digit digits ih =>
    rw [Nat.ofDigitChars_cons] at small ⊢
    have grown := le_ofDigitChars digits (10 * count + (digit.toNat - '0'.toNat))
    have below : 10 * count + (digit.toNat - '0'.toNat) < limit := by omega
    rw [accumulate, if_pos below]
    exact ih small

/-- Nothing follows that could go on with a value: the text is over, or a comma or a closing bracket
or brace comes. -/
def Ends (rest : List Char) : Prop :=
  rest = [] ∨ ∃ tail, rest = ',' :: tail ∨ rest = ']' :: tail ∨ rest = '\x7d' :: tail

/-- No digit comes where a value ends. -/
theorem leadingDigits_of_ends {rest : List Char} (ends : Ends rest) : leadingDigits rest = [] := by
  rcases ends with rfl | ⟨tail, rfl | rfl | rfl⟩ <;> rfl

/-- Digits are read up to where no digit comes. -/
theorem digits_append {digits text : List Char} (all : ∀ c ∈ digits, c.isDigit = true)
    (stops : leadingDigits text = []) :
    leadingDigits (digits ++ text) = digits ∧ afterDigits (digits ++ text) = text := by
  have leading : leadingDigits (digits ++ text) = digits := by
    unfold leadingDigits at stops ⊢
    rw [List.takeWhile_append_of_pos all, stops, List.append_nil]
  have both : leadingDigits (digits ++ text) ++ afterDigits (digits ++ text) = digits ++ text :=
    List.takeWhile_append_dropWhile
  rw [leading] at both
  exact ⟨leading, List.append_cancel_left both⟩

/-- Digits behind which a value ends are an integer. -/
theorem afterWhole_of_ends {digits rest : List Char} (negative : Bool) (ends : Ends rest)
    (small : Nat.ofDigitChars 10 digits 0 < 0x10000000000000000) :
    afterWhole negative digits rest =
      .ok (integerOf negative (Nat.ofDigitChars 10 digits 0), rest) := by
  unfold afterWhole
  rw [accumulate_all small]
  rcases ends with rfl | ⟨tail, rfl | rfl | rfl⟩ <;> rfl

/-- A digit other than zero is not written as one. -/
theorem digitChar_ne_zero : ∀ n < 10, 0 < n → n.digitChar ≠ '0' := by
  decide

/-- The digits of a count begin with one that is zero only if the count is. -/
theorem first_digit (n : Nat) :
    ∃ first others, Nat.toDigits 10 n = first :: others ∧ first.isDigit = true ∧
      (0 < n → first ≠ '0') := by
  induction n using Nat.strongRecOn with
  | ind n ih =>
    by_cases small : n < 10
    · refine ⟨n.digitChar, [], Nat.toDigits_of_lt_base small, ?_, digitChar_ne_zero n small⟩
      simp [Nat.isDigit_digitChar, small]
    · obtain ⟨first, others, front, digit, nonzero⟩ := ih (n / 10) (by omega)
      rw [Nat.toDigits_of_base_le (by decide) (by omega), front]
      exact ⟨first, others ++ [(n % 10).digitChar], rfl, digit, fun _ => nonzero (by omega)⟩

/-- The digits of a whole part: a zero, or digits that begin with another one. -/
def IsWhole (digits : List Char) : Prop :=
  digits = ['0'] ∨
    (∃ first others, digits = first :: others ∧ first ≠ '0') ∧ ∀ c ∈ digits, c.isDigit = true

/-- The digits of a count are a whole part. -/
theorem isWhole_toDigits (n : Nat) : IsWhole (Nat.toDigits 10 n) := by
  rcases Nat.eq_zero_or_pos n with rfl | positive
  · exact Or.inl (Nat.toDigits_zero 10)
  · obtain ⟨first, others, digits, -, nonzero⟩ := first_digit n
    exact Or.inr ⟨⟨first, others, digits, nonzero positive⟩, fun c member =>
      Nat.isDigit_of_mem_toDigits (by decide) (by decide) member⟩

/-- A whole part is taken off the text of a number. -/
theorem unsigned_of_whole (negative : Bool) {digits text : List Char} (whole : IsWhole digits)
    (stops : leadingDigits text = []) :
    unsigned negative (digits ++ text) = afterWhole negative digits text := by
  rcases whole with rfl | ⟨⟨first, others, rfl, nonzero⟩, all⟩
  · cases text with
    | nil => rfl
    | cons second rest =>
      have other : second.isDigit = false := by
        simpa [leadingDigits, List.takeWhile_cons] using stops
      simp [unsigned, other]
  · obtain ⟨leading, after⟩ := digits_append all stops
    have digit : first.isDigit = true := all first List.mem_cons_self
    rw [List.cons_append] at leading after ⊢
    simp only [unsigned, digit, nonzero, leading, after, Bool.not_true, if_false,
      Bool.false_eq_true]

/-- The digits of a count are read back. -/
theorem unsigned_toDigits (negative : Bool) {n : Nat} (small : n < 0x10000000000000000)
    {rest : List Char} (ends : Ends rest) :
    unsigned negative (Nat.toDigits 10 n ++ rest) = .ok (integerOf negative n, rest) := by
  have same : Nat.ofDigitChars 10 (Nat.toDigits 10 n) 0 = n := Nat.ofDigitChars_ten_toDigits
  have whole := afterWhole_of_ends negative ends (same.symm ▸ small)
  rw [same] at whole
  rw [unsigned_of_whole negative (isWhole_toDigits n) (leadingDigits_of_ends ends), whole]

/-- An integer begins as a number does. -/
theorem first_char (i : Integer) :
    ∃ first others, i.chars = first :: others ∧ BeginsNumber first := by
  unfold Integer.chars
  split
  · exact ⟨'-', _, rfl, Or.inl rfl⟩
  · obtain ⟨first, others, digits, digit, -⟩ := first_digit i.val.natAbs
    exact ⟨first, others, digits, Or.inr digit⟩

/-- Without a minus a number is read as it stands. -/
theorem number_of_digit {first : Char} (digit : first.isDigit = true) (text : List Char) :
    number (first :: text) = unsigned false (first :: text) := by
  unfold number
  split
  · rename_i minus
    obtain ⟨rfl, -⟩ := List.cons.inj minus
    contradiction
  · rfl

/-- An integer is read back. -/
theorem number_chars (i : Integer) {rest : List Char} (ends : Ends rest) :
    number (i.chars ++ rest) = .ok (.integer i, rest) := by
  obtain ⟨val, lower, upper⟩ := i
  have size : val.natAbs < 0x10000000000000000 := by omega
  by_cases negative : val < 0
  · have read := unsigned_toDigits true size ends
    have fits : 0 < val.natAbs ∧ val.natAbs ≤ 0x8000000000000000 := by omega
    have same : -(val.natAbs : Int) = val := by omega
    simp only [integerOf, if_true, dif_pos fits, same] at read
    simp only [Integer.chars, if_pos negative]
    exact read
  · have read := unsigned_toDigits false size ends
    have same : (val.natAbs : Int) = val := by omega
    simp only [integerOf, Bool.false_eq_true, if_false, dif_pos size, same] at read
    obtain ⟨first, others, digits, digit, -⟩ := first_digit val.natAbs
    simp only [Integer.chars, if_neg negative]
    rw [digits, List.cons_append] at read ⊢
    exact (number_of_digit digit _).trans read

/-! ## Values -/

/-- All numbers of a value are integers, and its arrays and objects are nested at most so deep. -/
inductive Plain : Nat → Value → Prop
  /-- The literal `null`. -/
  | null {depth : Nat} : Plain depth .null
  /-- A truth value. -/
  | bool {depth : Nat} (b : Bool) : Plain depth (.bool b)
  /-- An integer. -/
  | integer {depth : Nat} (i : Integer) : Plain depth (.number (.integer i))
  /-- A string. -/
  | string {depth : Nat} (s : String) : Plain depth (.string s)
  /-- An array is one level deeper than its items. -/
  | array {depth : Nat} {items : List Value} (inner : ∀ item ∈ items, Plain depth item) :
      Plain (depth + 1) (.array items)
  /-- An object is one level deeper than its members. -/
  | object {depth : Nat} {members : List (String × Value)}
      (inner : ∀ member ∈ members, Plain depth member.2) : Plain (depth + 1) (.object members)

/-- A value can begin here: there is no blank, and the array is not over. -/
def Begins (text : List Char) : Prop :=
  ∃ c rest, text = c :: rest ∧ isSpace c = false ∧ c ≠ ']'

/-- What begins a number is no blank. -/
theorem BeginsNumber.isSpace {c : Char} (begins : BeginsNumber c) : isSpace c = false := by
  have blank : c ≠ ' ' := begins.ne (by decide) rfl
  have line : c ≠ '\n' := begins.ne (by decide) rfl
  have tab : c ≠ '\t' := begins.ne (by decide) rfl
  have back : c ≠ '\r' := begins.ne (by decide) rfl
  simp [Json.isSpace, blank, line, tab, back]

/-- A value begins with a character that is no blank and ends no array. -/
theorem begins_chars {depth : Nat} {v : Value} (plain : Plain depth v) : Begins v.chars := by
  cases plain with
  | null => exact ⟨'n', _, rfl, rfl, by decide⟩
  | bool b => cases b <;> exact ⟨_, _, rfl, rfl, by decide⟩
  | integer i =>
    obtain ⟨first, others, written, begins⟩ := first_char i
    exact ⟨first, others, written, begins.isSpace, begins.ne (by decide) rfl⟩
  | string s => exact ⟨'"', _, rfl, rfl, by decide⟩
  | @array _ items _ => cases items <;> exact ⟨'[', _, rfl, rfl, by decide⟩
  | @object _ members _ => cases members <;> exact ⟨'\x7b', _, rfl, rfl, by decide⟩

/-- Where a value begins, there is no blank to skip. -/
theorem skipSpace_of_begins {text : List Char} (begins : Begins text) : skipSpace text = text := by
  obtain ⟨c, rest, rfl, blank, -⟩ := begins
  simp [skipSpace, blank]

/-- A value still begins where more follows. -/
theorem Begins.append {text : List Char} (begins : Begins text) (rest : List Char) :
    Begins (text ++ rest) := by
  obtain ⟨c, others, rfl, blank, inside⟩ := begins
  exact ⟨c, others ++ rest, rfl, blank, inside⟩

/-- A value stands in its compact text, whatever ends it. -/
def StandsBack (v : Value) : Prop :=
  ∀ rest, Ends rest → Stands (v.chars ++ rest) v rest

/-- A number that is read without its sign begins with a digit. -/
theorem digit_of_unsigned {negative : Bool} {text rest : List Char} {n : Number}
    (read : unsigned negative text = .ok (n, rest)) :
    ∃ first others, text = first :: others ∧ first.isDigit = true := by
  cases text with
  | nil => simp [unsigned] at read
  | cons first others =>
    refine ⟨first, others, rfl, ?_⟩
    by_contra other
    rw [Bool.not_eq_true] at other
    simp [unsigned, other] at read

/-- A number that is read stands where it is read. -/
theorem stands_of_number {text rest : List Char} {n : Number} (read : number text = .ok (n, rest)) :
    Stands text (.number n) rest := by
  have begins : ∃ first others, text = first :: others ∧ BeginsNumber first := by
    unfold number at read
    split at read
    · exact ⟨'-', _, rfl, Or.inl rfl⟩
    · obtain ⟨first, others, split, digit⟩ := digit_of_unsigned read
      exact ⟨first, others, split, Or.inr digit⟩
  obtain ⟨first, others, rfl, begins⟩ := begins
  have stays : skipSpace (first :: others) = first :: others := by
    simp [skipSpace, begins.isSpace]
  exact .number stays begins read

/-- An integer stands in its digits. -/
theorem standsBack_integer (i : Integer) : StandsBack (.number (.integer i)) :=
  fun _ ends => stands_of_number (number_chars i ends)

/-- A string stands between its quotes. -/
theorem standsBack_string (s : String) : StandsBack (.string s) := by
  intro rest _
  have quoted := stringBody_chars s.toList rest
  have stands : Stands (stringChars s ++ rest) (.string (.ofList s.toList)) rest := by
    rw [stringChars_append]
    exact .string rfl quoted
  rwa [String.ofList_toList] at stands

/-! ### Arrays -/

/-- An array has a first item where a value begins. -/
theorem firstItem_of_begins {text : List Char} (begins : Begins text) :
    firstItem text = .ok (.entry text) := by
  have stays := skipSpace_of_begins begins
  obtain ⟨c, rest, rfl, -, inside⟩ := begins
  simp only [firstItem, stays, if_neg inside]

/-- An array has another item where a value begins behind a comma. -/
theorem nextItem_of_begins {text : List Char} (begins : Begins text) :
    nextItem (',' :: text) = .ok (.entry text) := by
  have comma : skipSpace (',' :: text) = ',' :: text := rfl
  have stays := skipSpace_of_begins begins
  obtain ⟨c, rest, rfl, -, inside⟩ := begins
  simp only [nextItem, comma, stays, if_neg inside, Char.reduceEq, if_true, if_false]

/-- The items of an array stand one behind the other up to its end. -/
theorem itemsStand_chars {item : Value} {others : List Value}
    (begins : ∀ v ∈ others, Begins v.chars) (stands : ∀ v ∈ item :: others, StandsBack v)
    (rest : List Char) :
    ItemsStand Stands (.entry (item.chars ++ (itemsChars others ++ rest))) (item :: others)
      rest := by
  induction others generalizing item with
  | nil =>
    have here := stands item List.mem_cons_self (']' :: rest) (Or.inr ⟨rest, by simp⟩)
    exact .entry here rfl (.close rest)
  | cons next others ih =>
    let text := next.chars ++ (itemsChars others ++ rest)
    have here := stands item List.mem_cons_self (',' :: text) (Or.inr ⟨text, by simp⟩)
    have following : nextItem (',' :: text) = .ok (.entry text) :=
      nextItem_of_begins ((begins next List.mem_cons_self).append _)
    have later := ih (fun v inside => begins v (List.mem_cons_of_mem _ inside))
      (fun v inside => stands v (List.mem_cons_of_mem _ inside))
    have split : itemsChars (next :: others) ++ rest = ',' :: text := by
      simp [itemsChars, text]
    rw [split]
    exact .entry here following later

/-- An array stands between its brackets. -/
theorem standsBack_array {list : List Value} (begins : ∀ v ∈ list, Begins v.chars)
    (stands : ∀ v ∈ list, StandsBack v) : StandsBack (.array list) := by
  intro rest _
  cases list with
  | nil => exact .array rfl rfl (.close rest)
  | cons item others =>
    have first : Begins item.chars := begins item List.mem_cons_self
    have later : ∀ v ∈ others, Begins v.chars := fun v inside =>
      begins v (List.mem_cons_of_mem _ inside)
    have split : Value.chars (.array (item :: others)) ++ rest =
        '[' :: (item.chars ++ (itemsChars others ++ rest)) := by
      simp [Value.chars]
    rw [split]
    exact .array rfl (firstItem_of_begins (first.append _)) (itemsStand_chars later stands rest)

/-! ### Objects -/

/-- An object has another member where a quote comes behind a comma. -/
theorem nextKey_of_quote (text : List Char) :
    nextKey (',' :: '"' :: text) = .ok (.entry text) := rfl

/-- A member stands behind its key, and others behind it. -/
theorem membersStand_member (key : String) {v : Value} {text left rest : List Char}
    (stands : Stands text v left) {others : List (String × Value)} {next : Next}
    (following : nextKey left = .ok next) (later : MembersStand Stands next others rest) :
    MembersStand Stands (.entry (key.toList.flatMap escapedChar ++ '"' :: ':' :: text))
      ((key, v) :: others) rest := by
  have quoted := stringBody_chars key.toList (':' :: text)
  have entry := MembersStand.entry quoted rfl stands following later
  rwa [String.ofList_toList] at entry

/-- The members of an object stand one behind the other up to its end. -/
theorem membersStand_chars {key : String} {v : Value} {others : List (String × Value)}
    (stands : ∀ member ∈ (key, v) :: others, StandsBack member.2) (rest : List Char) :
    MembersStand Stands
      (.entry (key.toList.flatMap escapedChar ++
        '"' :: ':' :: (v.chars ++ (membersChars others ++ rest))))
      ((key, v) :: others) rest := by
  have first : StandsBack v := stands (key, v) List.mem_cons_self
  induction others generalizing key v with
  | nil =>
    have ends : Ends ('\x7d' :: rest) := Or.inr ⟨rest, by simp⟩
    exact membersStand_member key (first _ ends) rfl (.close rest)
  | cons next others ih =>
    obtain ⟨name, other⟩ := next
    let text := name.toList.flatMap escapedChar ++
      '"' :: ':' :: (other.chars ++ (membersChars others ++ rest))
    have split : membersChars ((name, other) :: others) ++ rest = ',' :: '"' :: text := by
      simp [membersChars, stringChars, text]
    have ends : Ends (',' :: '"' :: text) := Or.inr ⟨'"' :: text, by simp⟩
    have later : ∀ member ∈ (name, other) :: others, StandsBack member.2 :=
      fun member inside => stands member (List.mem_cons_of_mem _ inside)
    rw [split]
    exact membersStand_member key (first _ ends) (nextKey_of_quote text)
      (ih later (later (name, other) List.mem_cons_self))

/-- An object stands between its braces. -/
theorem standsBack_object {list : List (String × Value)}
    (stands : ∀ member ∈ list, StandsBack member.2) : StandsBack (.object list) := by
  intro rest _
  cases list with
  | nil => exact .object rfl rfl (.close rest)
  | cons member others =>
    obtain ⟨key, v⟩ := member
    have split : Value.chars (.object ((key, v) :: others)) ++ rest =
        '\x7b' :: '"' :: (key.toList.flatMap escapedChar ++
          '"' :: ':' :: (v.chars ++ (membersChars others ++ rest))) := by
      simp [Value.chars, stringChars]
    rw [split]
    exact .object rfl rfl (membersStand_chars stands rest)

/-! ### All values -/

/-- A value whose numbers are integers stands in its compact text. -/
theorem standsBack {depth : Nat} {v : Value} (plain : Plain depth v) : StandsBack v := by
  induction plain with
  | null => exact fun rest _ => .null rfl rfl
  | bool b =>
    cases b with
    | true => exact fun rest _ => .true rfl rfl
    | false => exact fun rest _ => .false rfl rfl
  | integer i => exact standsBack_integer i
  | string s => exact standsBack_string s
  | array inner ih => exact standsBack_array (fun v inside => begins_chars (inner v inside)) ih
  | object inner ih => exact standsBack_object ih

/-- The compact text of a value writes it, if its numbers are integers. -/
theorem written_render {depth : Nat} {v : Value} (plain : Plain depth v) : Written v.render v := by
  have stands := standsBack plain [] (Or.inl rfl)
  rw [List.append_nil] at stands
  refine ⟨[], ?_, rfl⟩
  rwa [Value.render, String.toList_ofList]

/-- The reader of what is nested in values that are nested at most so deep. -/
def nestedValue : Nat → Option (Reader Value)
  | 0 => none
  | depth + 1 => some (value depth)

/-- A value goes by the first character behind blanks. -/
theorem value_run (depth : Nat) {c : Char} {text body : List Char}
    (first : skipSpace text = c :: body) :
    (value depth).run text = valueAt (nestedValue depth) c body := by
  have reads : (value depth).run text = atFirst (valueAt (nestedValue depth)) text := by
    cases depth <;> rfl
  rw [reads, atFirst, first]

/-- A reader reads what stands in a text, and makes it tidy. -/
def Reads (reader : Reader Value) (v : Value) : Prop :=
  ∀ {text rest : List Char}, Stands text v rest → reader.run text = .ok (v.tidy, rest)

/-- Nothing is read where the array ends. -/
theorem items_close {α : Type} (item : Reader α) (rest : List Char) :
    items item (.close rest) = .ok ([], rest) := by
  rw [items]

/-- One item is read, and then the others. -/
theorem items_entry {α : Type} {item : Reader α} {text rest last : List Char} {value : α}
    {values : List α} {next : Next} (here : item.run text = .ok (value, rest))
    (following : nextItem rest = .ok next) (others : items item next = .ok (values, last)) :
    items item (.entry text) = .ok (value :: values, last) := by
  rw [items]
  split <;> rename_i read <;> rw [here] at read <;> cases read
  split <;> rename_i read <;> rw [following] at read <;> cases read
  simp only [others]

/-- Items that stand in a text are read. -/
theorem items_of_stand {reader : Reader Value} {next : Next} {values : List Value}
    {rest : List Char} (stand : ItemsStand Stands next values rest)
    (reads : ∀ v ∈ values, Reads reader v) :
    items reader next = .ok (tidyItems values, rest) := by
  induction stand with
  | close rest => exact items_close reader rest
  | entry here following _ ih =>
    have others := ih fun v inside => reads v (List.mem_cons_of_mem _ inside)
    exact items_entry (reads _ List.mem_cons_self here) following others

/-- Members that stand in a text are read, and each is put in its place. -/
theorem members_of_stand {reader : Reader Value} {next : Next} {list : List (String × Value)}
    {rest : List Char} (stand : MembersStand Stands next list rest)
    (reads : ∀ member ∈ list, Reads reader member.2) (written : List (String × Value)) :
    members (insertKey reader) (gather written) next =
      .ok (gather (written ++ tidyMembers list), rest) := by
  induction stand generalizing written with
  | close rest =>
    rw [tidyMembers, List.append_nil]
    exact members_close _ _ rest
  | @entry text key afterKey valueText left rest v list next quoted mark here following _ ih =>
    have found : (reader.map fun v => insertMember (String.ofList key) v (gather written)).run
        valueText = .ok (insertMember (String.ofList key) v.tidy (gather written), left) :=
      Reader.map_run.mpr ⟨v.tidy, reads _ List.mem_cons_self here, rfl⟩
    have others := ih (fun member inside => reads member (List.mem_cons_of_mem _ inside))
      (written ++ [(String.ofList key, v.tidy)])
    rw [members_entry quoted rfl mark found following, ← gather_concat, others, tidyMembers,
      List.append_assoc, List.singleton_append]

/-- A number is read where it stands. -/
theorem reads_number (depth : Nat) (n : Number) : Reads (value depth) (.number n) := by
  intro text rest stands
  cases stands with
  | number first begins digits =>
    have numeric : _ = '-' ∨ Char.isDigit _ = true := begins
    rw [value_run _ first]
    unfold valueAt
    rw [if_neg (begins.ne (by decide) rfl), if_neg (begins.ne (by decide) rfl),
      if_neg (begins.ne (by decide) rfl), if_neg (begins.ne (by decide) rfl), if_pos numeric,
      digits, Value.tidy]
    rfl

/-- A string is read where it stands. -/
theorem reads_string (depth : Nat) (s : String) : Reads (value depth) (.string s) := by
  intro text rest stands
  cases stands with
  | string first quoted =>
    rw [value_run _ first]
    change (string _).as Value.string = _
    rw [string, quoted, Value.tidy]
    rfl

/-- An object is read where it stands, if its members are, one level deeper. -/
theorem reads_object {depth : Nat} {list : List (String × Value)}
    (reads : ∀ member ∈ list, Reads (value depth) member.2) :
    Reads (value (depth + 1)) (.object list) := by
  intro text rest stands
  cases stands with
  | object first opened inside =>
    have fields := members_of_stand inside reads []
    rw [value_run _ first]
    change object _ _ = _
    simp only [object, opened, Value.tidy]
    rw [show members _ [] _ = _ from fields]
    rfl

/-- A value whose numbers are integers is read where it stands by every reader that allows its
nesting. -/
theorem reads_value {depth : Nat} {v : Value} (plain : Plain depth v) : Reads (value depth) v := by
  induction plain with
  | null =>
    intro text rest stands
    cases stands with
    | null first spelled =>
      rw [value_run _ first]
      change literal _ _ _ = _
      rw [literal, spelled, Value.tidy]
  | bool b =>
    intro text rest stands
    cases stands with
    | true first spelled | false first spelled =>
      rw [value_run _ first]
      change literal _ _ _ = _
      rw [literal, spelled, Value.tidy]
  | integer i => exact reads_number _ (.integer i)
  | string s => exact reads_string _ s
  | array _ ih =>
    intro text rest stands
    cases stands with
    | array first opened inside =>
      rw [value_run _ first]
      change array _ _ = _
      simp only [array, opened, items_of_stand inside ih, Value.tidy]
  | object _ ih => exact reads_object ih

/-- A text is read as the value that it writes, if that is read where it stands. -/
theorem parse_of_written {text : String} {v : Value} (written : Written text v)
    (reads : Reads (value maxDepth) v) : parse text = .ok v.tidy := by
  obtain ⟨rest, stands, ended⟩ := written
  rw [parse, readAll, reads stands]
  simp only [ended]

/-- The text of a value is read back, if its numbers are integers and it is not nested too deep. -/
theorem parse_render {v : Value} (plain : Plain maxDepth v) : parse v.render = .ok v.tidy :=
  parse_of_written (written_render plain) (reads_value plain)

/-- In all objects of a value the members stand in ascending order of their keys. -/
inductive Ordered : Value → Prop
  /-- The literal `null`. -/
  | null : Ordered .null
  /-- A truth value. -/
  | bool (b : Bool) : Ordered (.bool b)
  /-- A number. -/
  | number (n : Number) : Ordered (.number n)
  /-- A string. -/
  | string (s : String) : Ordered (.string s)
  /-- An array of such values. -/
  | array {items : List Value} (inner : ∀ item ∈ items, Ordered item) : Ordered (.array items)
  /-- An object of such values, in ascending order itself. -/
  | object {members : List (String × Value)} (ascending : Ascending members)
      (inner : ∀ member ∈ members, Ordered member.2) : Ordered (.object members)

/-- Items that are tidy stay as they are. -/
theorem tidyItems_eq {items : List Value} (same : ∀ item ∈ items, item.tidy = item) :
    tidyItems items = items := by
  induction items with
  | nil => rfl
  | cons item items ih =>
    have first := same item List.mem_cons_self
    have others := ih fun other inside => same other (List.mem_cons_of_mem _ inside)
    rw [tidyItems, first, others]

/-- Members whose values are tidy stay as they are. -/
theorem tidyMembers_eq {members : List (String × Value)}
    (same : ∀ member ∈ members, member.2.tidy = member.2) : tidyMembers members = members := by
  induction members with
  | nil => rfl
  | cons member members ih =>
    obtain ⟨key, v⟩ := member
    have first : v.tidy = v := same (key, v) List.mem_cons_self
    have others := ih fun other inside => same other (List.mem_cons_of_mem _ inside)
    rw [tidyMembers, first, others]

/-- A value in order is tidy. -/
theorem tidy_of_ordered {v : Value} (ordered : Ordered v) : v.tidy = v := by
  induction ordered with
  | null | bool | number | string => rfl
  | array _ ih => rw [Value.tidy, tidyItems_eq ih]
  | object ascending _ ih => rw [Value.tidy, tidyMembers_eq ih, gather_of_ascending ascending]

end Embed.Json
