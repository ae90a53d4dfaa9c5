import Embed.Json.Numeral
/-!
# Reading JSON values

Arrays and objects are read item by item and member by member. The same two loops serve the reader
of plain values here and the readers of records of known fields: an object's loop is told what to do
with a key before the value behind it is read. Nesting is bounded, and the bound is what the reader
of values recurs on.
-/

namespace Embed.Json

/-- What comes next inside brackets or braces: the end, with the text behind it, or another entry,
with the text from which it is read. -/
inductive Next where
  /-- The closing bracket or brace. -/
  | close (rest : List Char)
  /-- One more entry. -/
  | entry (text : List Char)

/-- The text that goes on with what comes next. -/
def Next.text : Next → List Char
  | .close rest => rest
  | .entry text => text

/-- What comes first in an array, behind its opening bracket. -/
def firstItem (text : List Char) : Except Fault Next :=
  match skipSpace text with
  | [] => .error (.atEnd .eofList)
  | c :: rest => if c = ']' then .ok (.close rest) else .ok (.entry (c :: rest))

/-- What comes in an array behind an item. -/
def nextItem (text : List Char) : Except Fault Next :=
  match skipSpace text with
  | [] => .error (.atEnd .eofList)
  | c :: rest =>
    if c = ']' then .ok (.close rest)
    else if c = ',' then
      match skipSpace rest with
      | [] => .error (.atEnd .eofValue)
      | d :: rest' =>
        if d = ']' then .error (.on (d :: rest') .trailingComma) else .ok (.entry (d :: rest'))
    else .error (.on (c :: rest) .expectedListEnd)

/-- What comes first in an object, behind its opening brace: an entry starts behind the opening
quote of its key. -/
def firstKey (text : List Char) : Except Fault Next :=
  match skipSpace text with
  | [] => .error (.atEnd .eofObject)
  | c :: rest =>
    if c = '\x7d' then .ok (.close rest)
    else if c = '"' then .ok (.entry rest)
    else .error (.on (c :: rest) .keyNotString)

/-- What comes in an object behind a member. -/
def nextKey (text : List Char) : Except Fault Next :=
  match skipSpace text with
  | [] => .error (.atEnd .eofObject)
  | c :: rest =>
    if c = '\x7d' then .ok (.close rest)
    else if c = ',' then
      match skipSpace rest with
      | [] => .error (.atEnd .eofValue)
      | d :: rest' =>
        if d = '\x7d' then .error (.on (d :: rest') .trailingComma)
        else if d = '"' then .ok (.entry rest')
        else .error (.on (d :: rest') .keyNotString)
    else .error (.on (c :: rest) .expectedObjectEnd)

/-- The text behind the colon that follows a key. -/
def colon (text : List Char) : Except Fault (List Char) :=
  match skipSpace text with
  | [] => .error (.atEnd .eofObject)
  | c :: rest => if c = ':' then .ok rest else .error (.on (c :: rest) .expectedColon)

/-- The text behind the first character that is no blank is shorter. -/
theorem length_of_skipSpace_eq {text rest : List Char} {c : Char}
    (skipped : skipSpace text = c :: rest) : rest.length < text.length := by
  have := skipSpace_length text
  rw [skipped, List.length_cons] at this
  omega

/-- What comes first in an array starts no earlier than the text behind its bracket. -/
theorem firstItem_length {text : List Char} {next : Next} (read : firstItem text = .ok next) :
    next.text.length ≤ text.length := by
  unfold firstItem at read
  split at read
  · simp at read
  · rename_i c rest skipped
    have := length_of_skipSpace_eq skipped
    split at read <;>
    · simp only [Except.ok.injEq] at read
      subst read
      simp only [Next.text, List.length_cons]
      omega

/-- What comes behind an item starts later, since a comma or a bracket stands between. -/
theorem nextItem_length {text : List Char} {next : Next} (read : nextItem text = .ok next) :
    next.text.length < text.length := by
  unfold nextItem at read
  split at read
  · simp at read
  · rename_i c rest skipped
    have := length_of_skipSpace_eq skipped
    split at read
    · simp only [Except.ok.injEq] at read
      subst read
      exact this
    · split at read
      · split at read
        · simp at read
        · rename_i d rest' skipped'
          have := length_of_skipSpace_eq skipped'
          split at read
          · simp at read
          · simp only [Except.ok.injEq] at read
            subst read
            simp only [Next.text, List.length_cons]
            omega
      · simp at read

/-- What comes first in an object starts later, behind a quote or a brace. -/
theorem firstKey_length {text : List Char} {next : Next} (read : firstKey text = .ok next) :
    next.text.length < text.length := by
  unfold firstKey at read
  split at read
  · simp at read
  · rename_i c rest skipped
    have := length_of_skipSpace_eq skipped
    split at read
    · simp only [Except.ok.injEq] at read
      subst read
      exact this
    · split at read
      · simp only [Except.ok.injEq] at read
        subst read
        exact this
      · simp at read

/-- What comes behind a member starts later, since a comma or a brace stands between. -/
theorem nextKey_length {text : List Char} {next : Next} (read : nextKey text = .ok next) :
    next.text.length < text.length := by
  unfold nextKey at read
  split at read
  · simp at read
  · rename_i c rest skipped
    have := length_of_skipSpace_eq skipped
    split at read
    · simp only [Except.ok.injEq] at read
      subst read
      exact this
    · split at read
      · split at read
        · simp at read
        · rename_i d rest' skipped'
          have := length_of_skipSpace_eq skipped'
          split at read
          · simp at read
          · split at read
            · simp only [Except.ok.injEq] at read
              subst read
              simp only [Next.text]
              omega
            · simp at read
      · simp at read

/-- A colon takes at least itself. -/
theorem colon_shorter {text rest : List Char} (read : colon text = .ok rest) :
    rest.length < text.length := by
  unfold colon at read
  split at read
  · simp at read
  · rename_i c tail skipped
    have := length_of_skipSpace_eq skipped
    split at read
    · simp only [Except.ok.injEq] at read
      subst read
      exact this
    · simp at read

/-- The items of an array, from what comes next to the closing bracket. -/
def items {α : Type} (item : Reader α) (next : Next) : Outcome (List α) :=
  match next with
  | .close rest => .ok ([], rest)
  | .entry text =>
    match here : item.run text with
    | .error fault => .error fault
    | .ok (value, rest) =>
      match following : nextItem rest with
      | .error fault => .error fault
      | .ok next' =>
        have : next'.text.length < text.length := by
          have := item.shorter here
          have := nextItem_length following
          omega
        match items item next' with
        | .error fault => .error fault
        | .ok (values, last) => .ok (value :: values, last)
termination_by next.text.length

/-- What an object's reader does with a key, given what it has gathered so far: it refuses the key,
or goes on to read the value behind the colon. -/
abbrev OnKey (σ : Type) := σ → String → Except Mismatch (Reader σ)

/-- A text without the closing brace that may follow. -/
def skipBrace (text : List Char) : List Char :=
  match skipSpace text with
  | '\x7d' :: rest => rest
  | rest => rest

/-- The members of an object, from what comes next to the closing brace, gathered one by one. A key
is refused before its colon, at the place behind it or behind the brace that ends the object there
and then. -/
def members {σ : Type} (onKey : OnKey σ) (gathered : σ) (next : Next) : Outcome σ :=
  match next with
  | .close rest => .ok (gathered, rest)
  | .entry text =>
    match quoted : stringBody text with
    | .error fault => .error fault
    | .ok (key, afterKey) =>
      match onKey gathered (String.ofList key) with
      | .error mismatch => .error (.before (skipBrace afterKey) (.mismatch mismatch))
      | .ok reader =>
        match mark : colon afterKey with
        | .error fault => .error fault
        | .ok valueText =>
          match here : reader.run valueText with
          | .error fault => .error fault
          | .ok (gathered', rest) =>
            match following : nextKey rest with
            | .error fault => .error fault
            | .ok next' =>
              have : next'.text.length < text.length := by
                have := stringBody_shorter quoted
                have := colon_shorter mark
                have := reader.shorter here
                have := nextKey_length following
                omega
              members onKey gathered' next'
termination_by next.text.length

/-- The items of an array leave no longer text. -/
theorem items_length {α : Type} {item : Reader α} {next : Next} {values : List α}
    {rest : List Char} (read : items item next = .ok (values, rest)) :
    rest.length ≤ next.text.length := by
  fun_induction items item next generalizing values rest with
  | case1 => simp_all [Next.text]
  | case2 => simp at read
  | case3 => simp at read
  | case4 => simp at read
  | case5 text value tail here next' following smaller values' last inner ih =>
    have := ih inner
    simp only [Except.ok.injEq, Prod.mk.injEq] at read
    rw [← read.2]
    change last.length ≤ text.length
    omega

/-- The members of an object leave no longer text. -/
theorem members_length {σ : Type} {onKey : OnKey σ} {gathered result : σ} {next : Next}
    {rest : List Char} (read : members onKey gathered next = .ok (result, rest)) :
    rest.length ≤ next.text.length := by
  fun_induction members onKey gathered next with
  | case1 => simp_all [Next.text]
  | case2 => simp at read
  | case3 => simp at read
  | case4 => simp at read
  | case5 => simp at read
  | case6 => simp at read
  | case7 =>
    rename_i text _ _ _ _ _ _ _ _ _ _ _ _ smaller ih
    have := ih read
    change rest.length ≤ text.length
    omega

/-- The members of an object of any keys, each in its place. -/
def insertKey (value : Reader Value) : OnKey (List (String × Value)) :=
  fun gathered key => .ok (value.map fun v => insertMember key v gathered)

/-- An array behind its opening bracket, with a reader for the values in it. -/
def array (value : Reader Value) (text : List Char) : Outcome Value :=
  match firstItem text with
  | .error fault => .error fault
  | .ok next =>
    match items value next with
    | .error fault => .error fault
    | .ok (values, rest) => .ok (.array values, rest)

/-- An object behind its opening brace, with a reader for the values in it. -/
def object (value : Reader Value) (text : List Char) : Outcome Value :=
  match firstKey text with
  | .error fault => .error fault
  | .ok next =>
    match members (insertKey value) [] next with
    | .error fault => .error fault
    | .ok (entries, rest) => .ok (.object entries, rest)

/-- A literal, read behind its first letter. -/
def literal {α : Type} (letters : List Char) (value : α) (text : List Char) : Outcome α :=
  match word letters text with
  | .error fault => .error fault
  | .ok rest => .ok (value, rest)

/-- A string, read behind its opening quote. -/
def string (text : List Char) : Outcome String :=
  match stringBody text with
  | .error fault => .error fault
  | .ok (s, rest) => .ok (String.ofList s, rest)

/-- An array leaves no longer text than it had behind its opening bracket. -/
theorem array_length {value : Reader Value} {text rest : List Char} {v : Value}
    (read : array value text = .ok (v, rest)) : rest.length ≤ text.length := by
  unfold array at read
  split at read
  · simp at read
  · rename_i next first
    split at read
    · simp at read
    · rename_i inner
      simp only [Except.ok.injEq, Prod.mk.injEq] at read
      have := firstItem_length first
      have := items_length inner
      rw [← read.2]
      omega

/-- An object leaves no longer text than it had behind its opening brace. -/
theorem object_length {value : Reader Value} {text rest : List Char} {v : Value}
    (read : object value text = .ok (v, rest)) : rest.length ≤ text.length := by
  unfold object at read
  split at read
  · simp at read
  · rename_i next first
    split at read
    · simp at read
    · rename_i inner
      simp only [Except.ok.injEq, Prod.mk.injEq] at read
      have := firstKey_length first
      have := members_length inner
      rw [← read.2]
      omega

/-- A literal leaves no longer text than it had behind its first letter. -/
theorem literal_length {α : Type} {letters text rest : List Char} {value v : α}
    (read : literal letters value text = .ok (v, rest)) : rest.length ≤ text.length := by
  unfold literal at read
  split at read
  · simp at read
  · rename_i spelled
    simp only [Except.ok.injEq, Prod.mk.injEq] at read
    have := word_length spelled
    rw [← read.2]
    omega

/-- A string leaves no longer text than it had behind its opening quote. -/
theorem string_length {text rest : List Char} {s : String}
    (read : string text = .ok (s, rest)) : rest.length ≤ text.length := by
  unfold string at read
  split at read
  · simp at read
  · rename_i body
    simp only [Except.ok.injEq, Prod.mk.injEq] at read
    have := stringBody_shorter body
    rw [← read.2]
    omega

/-- Applies a function to what was read. -/
def Outcome.as {α β : Type} (f : α → β) : Outcome α → Outcome β
  | .error fault => .error fault
  | .ok (value, rest) => .ok (f value, rest)

/-- What is read through a function is what was read before it, with the function applied. -/
theorem Outcome.as_eq_ok {α β : Type} {f : α → β} {outcome : Outcome α} {found : β}
    {rest : List Char} (read : outcome.as f = .ok (found, rest)) :
    ∃ value, outcome = .ok (value, rest) ∧ found = f value := by
  cases outcome with
  | error fault => simp [Outcome.as] at read
  | ok pair =>
    simp only [Outcome.as, Except.ok.injEq, Prod.mk.injEq] at read
    exact ⟨pair.1, by rw [← read.2], read.1.symm⟩

/-- A value whose first character is given and stands at the front of the text. The reader for what
is nested in it is absent when no deeper nesting is allowed. -/
def valueAt (nested : Option (Reader Value)) (c : Char) (rest : List Char) : Outcome Value :=
  if c = 'n' then literal ['u', 'l', 'l'] .null rest
  else if c = 't' then literal ['r', 'u', 'e'] (.bool true) rest
  else if c = 'f' then literal ['a', 'l', 's', 'e'] (.bool false) rest
  else if c = '"' then (string rest).as .string
  else if c = '-' ∨ c.isDigit then (number (c :: rest)).as .number
  else if c = '[' then
    match nested with
    | none => .error (.on (c :: rest) .recursionLimit)
    | some value => array value rest
  else if c = '\x7b' then
    match nested with
    | none => .error (.on (c :: rest) .recursionLimit)
    | some value => object value rest
  else .error (.on (c :: rest) .expectedValue)

/-- A value takes at least its first character. -/
theorem valueAt_shorter {nested : Option (Reader Value)} {c : Char} {text rest : List Char}
    {v : Value} (read : valueAt nested c text = .ok (v, rest)) :
    rest.length < (c :: text).length := by
  unfold valueAt at read
  rw [List.length_cons]
  split at read
  · have := literal_length read
    omega
  split at read
  · have := literal_length read
    omega
  split at read
  · have := literal_length read
    omega
  split at read
  · obtain ⟨s, inner, -⟩ := Outcome.as_eq_ok read
    have := string_length inner
    omega
  split at read
  · obtain ⟨n, inner, -⟩ := Outcome.as_eq_ok read
    have := number_shorter inner
    rw [List.length_cons] at this
    omega
  split at read
  · split at read
    · simp at read
    · have := array_length read
      omega
  split at read
  · split at read
    · simp at read
    · have := object_length read
      omega
  · simp at read

/-- Skips blanks and goes by the first character behind them. -/
def atFirst {α : Type} (step : Char → List Char → Outcome α) (text : List Char) : Outcome α :=
  match skipSpace text with
  | [] => .error (.atEnd .eofValue)
  | c :: rest => step c rest

/-- A reader that goes by the first character takes at least a character if its step does. -/
theorem atFirst_shorter {α : Type} {step : Char → List Char → Outcome α}
    (law : ∀ {c text value rest}, step c text = .ok (value, rest) →
      rest.length < (c :: text).length)
    {text : List Char} {v : α} {rest : List Char} (read : atFirst step text = .ok (v, rest)) :
    rest.length < text.length := by
  unfold atFirst at read
  split at read
  · simp at read
  · rename_i c tail skipped
    have := law read
    have := skipSpace_length text
    rw [skipped] at this
    omega

/-- The reader that skips blanks and goes by the first character behind them. -/
def Reader.byFirst {α : Type} (step : Char → List Char → Outcome α)
    (law : ∀ {c text value rest}, step c text = .ok (value, rest) →
      rest.length < (c :: text).length) : Reader α where
  run := atFirst step
  shorter := atFirst_shorter law

/-- The reader of values, with a reader for what is nested in them. -/
def valueWith (nested : Option (Reader Value)) : Reader Value :=
  .byFirst (valueAt nested) valueAt_shorter

/-- The reader of values in which arrays and objects are nested at most `depth` deep. -/
def value : (depth : Nat) → Reader Value
  | 0 => valueWith none
  | depth + 1 => valueWith (some (value depth))

/-- How deep arrays and objects may be nested. -/
def maxDepth : Nat := 127

/-- Reads a whole text: one thing, and nothing but blanks behind it. -/
def readAll {α : Type} (reader : Reader α) (text : String) : Except ReadError α :=
  match reader.run text.toList with
  | .error fault => .error (fault.locate text.toList)
  | .ok (result, rest) =>
    match skipSpace rest with
    | [] => .ok result
    | rest' => .error ((Fault.on rest' .trailingCharacters).locate text.toList)

/-- The value that a text denotes. -/
def parse (text : String) : Except ReadError Value :=
  readAll (value maxDepth) text

end Embed.Json
