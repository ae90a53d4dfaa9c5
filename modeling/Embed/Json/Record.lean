import Embed.Json.Parser
/-!
# Reading records of known fields

A record is read straight from the text, from an object by the names of its fields or from an array
in their order, so that whatever does not fit is reported at its place. What comes out is the list of
fields that were there; what the others are is for the record's own module to say.
-/

namespace Embed.Json

/-- What stands at the front of a text, for a report that something else was expected. A scalar is
read, and may itself be at fault; an array or an object is not entered. -/
def foundAt (c : Char) (rest : List Char) : Outcome Found :=
  if c = 'n' then literal ['u', 'l', 'l'] .null rest
  else if c = 't' then literal ['r', 'u', 'e'] (.bool true) rest
  else if c = 'f' then literal ['a', 'l', 's', 'e'] (.bool false) rest
  else if c = '"' then (string rest).as .string
  else if c = '-' ∨ c.isDigit then (number (c :: rest)).as .number
  else if c = '[' then .ok (.array, c :: rest)
  else if c = '\x7b' then .ok (.object, c :: rest)
  else .error (.on (c :: rest) .expectedValue)

/-- The fault of a text that does not start with what was expected. -/
def unexpected (expected : String) (c : Char) (rest : List Char) : Fault :=
  match foundAt c rest with
  | .error fault => fault
  | .ok (found, rest') => .before rest' (.mismatch (.wrongType found expected))

/-- A truth value, by its first letter. -/
def booleanAt (c : Char) (rest : List Char) : Outcome Bool :=
  if c = 't' then literal ['r', 'u', 'e'] true rest
  else if c = 'f' then literal ['a', 'l', 's', 'e'] false rest
  else .error (unexpected "a boolean" c rest)

/-- The reader of truth values. -/
def boolean : Reader Bool :=
  .byFirst booleanAt <| by
    intro c text value rest read
    unfold booleanAt at read
    rw [List.length_cons]
    split at read
    · have := literal_length read
      omega
    split at read
    · have := literal_length read
      omega
    · simp at read

/-- A string, by its opening quote. -/
def textAt (c : Char) (rest : List Char) : Outcome String :=
  if c = '"' then string rest else .error (unexpected "a string" c rest)

/-- The reader of strings. -/
def text : Reader String :=
  .byFirst textAt <| by
    intro c text value rest read
    unfold textAt at read
    rw [List.length_cons]
    split at read
    · have := string_length read
      omega
    · simp at read

/-- A count is an integer of 64 bits that is not negative. -/
def countOf (n : Number) : Except Mismatch Nat :=
  match n with
  | .integer i => if i.val < 0 then .error (.wrongValue (.number n) "usize") else .ok i.val.toNat
  | .double _ => .error (.wrongType (.number n) "usize")

/-- A count, by its first character. -/
def countAt (c : Char) (rest : List Char) : Outcome Nat :=
  if c = '-' ∨ c.isDigit then
    match number (c :: rest) with
    | .error fault => .error fault
    | .ok (n, rest') =>
      match countOf n with
      | .error mismatch => .error (.before rest' (.mismatch mismatch))
      | .ok count => .ok (count, rest')
  else .error (unexpected "usize" c rest)

/-- The reader of counts. -/
def count : Reader Nat :=
  .byFirst countAt <| by
    intro c text value rest read
    unfold countAt at read
    split at read
    · split at read
      · simp at read
      · rename_i n rest' inner
        have := number_shorter inner
        split at read
        · simp at read
        · simp only [Except.ok.injEq, Prod.mk.injEq] at read
          rw [← read.2]
          exact this
    · simp at read

/-- The literal `null`, by its first letter. -/
def nothingAt (c : Char) (rest : List Char) : Outcome Unit :=
  if c = 'n' then literal ['u', 'l', 'l'] () rest else .error (unexpected "unit" c rest)

/-- The reader of `null`. -/
def nothing : Reader Unit :=
  .byFirst nothingAt <| by
    intro c text value rest read
    unfold nothingAt at read
    rw [List.length_cons]
    split at read
    · have := literal_length read
      omega
    · simp at read

/-- The reader of what may be `null`. -/
def optional {α : Type} (reader : Reader α) : Reader (Option α) where
  run text :=
    match skipSpace text with
    | 'n' :: rest => literal ['u', 'l', 'l'] none rest
    | _ => (reader.run text).as some
  shorter := by
    intro text value rest read
    split at read
    · rename_i tail skipped
      have := literal_length read
      have := length_of_skipSpace_eq skipped
      omega
    · obtain ⟨inner, found, -⟩ := Outcome.as_eq_ok read
      exact reader.shorter found

/-- A record: what it is called where one was expected, and its fields in order, each with the
reader of its value. -/
structure Shape (σ : Type) where
  /-- The name used in reports. -/
  title : String
  /-- The names of the fields and the readers of their values. -/
  fields : List (String × Reader σ)

/-- What a record does with a key: it must be one of the fields, and not one that was there
before. -/
def Shape.onKey {σ : Type} (shape : Shape σ) : OnKey (List (String × σ)) := fun gathered key =>
  match shape.fields.lookup key with
  | none => .error (.unknownField key (shape.fields.map (·.1)))
  | some reader =>
    if (gathered.lookup key).isSome then .error (.duplicateField key)
    else .ok (reader.map fun value => gathered ++ [(key, value)])

/-- The end of an array all of whose fields were read. -/
def endOfFields (text : List Char) : Except Fault (List Char) :=
  match skipSpace text with
  | [] => .error (.atEnd .eofList)
  | c :: rest =>
    if c = ']' then .ok rest
    else if c = ',' then
      match skipSpace rest with
      | ']' :: rest' => .error (.on (']' :: rest') .trailingComma)
      | rest' => .error (.on rest' .trailingCharacters)
    else .error (.on (c :: rest) .trailingCharacters)

/-- The fields of an array in their order, given how to find out what comes next. A shorter array
leaves the last fields out. -/
def fieldsInOrder {σ : Type} (ahead : List Char → Except Fault Next) :
    List (String × Reader σ) → List Char → Outcome (List (String × σ))
  | [], text => (endOfFields text).map fun rest => ([], rest)
  | (name, reader) :: fields, text =>
    match ahead text with
    | .error fault => .error fault
    | .ok (.close rest) => .ok ([], rest)
    | .ok (.entry entry) =>
      match reader.run entry with
      | .error fault => .error fault
      | .ok (value, rest) => (fieldsInOrder nextItem fields rest).as ((name, value) :: ·)

/-- The end of an array of fields takes at least its bracket. -/
theorem endOfFields_shorter {text rest : List Char} (read : endOfFields text = .ok rest) :
    rest.length < text.length := by
  unfold endOfFields at read
  split at read
  · simp at read
  · rename_i c tail skipped
    have := length_of_skipSpace_eq skipped
    split at read
    · simp only [Except.ok.injEq] at read
      rw [← read]
      exact this
    · split at read
      · split at read <;> simp at read
      · simp at read

/-- Fields in their order leave no longer text, if what comes next does not start earlier. -/
theorem fieldsInOrder_length {σ : Type} {ahead : List Char → Except Fault Next}
    (law : ∀ {text next}, ahead text = .ok next → next.text.length ≤ text.length)
    {fields : List (String × Reader σ)} {text rest : List Char} {found : List (String × σ)}
    (read : fieldsInOrder ahead fields text = .ok (found, rest)) :
    rest.length ≤ text.length := by
  induction fields generalizing ahead text found with
  | nil =>
    simp only [fieldsInOrder] at read
    cases ended : endOfFields text with
    | error fault => simp [ended, Except.map] at read
    | ok tail =>
      simp only [ended, Except.map, Except.ok.injEq, Prod.mk.injEq] at read
      have := endOfFields_shorter ended
      rw [← read.2]
      omega
  | cons field fields ih =>
    simp only [fieldsInOrder] at read
    split at read
    · simp at read
    · rename_i tail next
      simp only [Except.ok.injEq, Prod.mk.injEq] at read
      have := law next
      rw [← read.2]
      exact this
    · rename_i entry next
      split at read
      · simp at read
      · rename_i value tail here
        obtain ⟨found', inner, -⟩ := Outcome.as_eq_ok read
        have h₁ : entry.length ≤ text.length := law next
        have h₂ := field.2.shorter here
        have h₃ := ih (fun step => Nat.le_of_lt (nextItem_length step)) inner
        omega

/-- A record, by its opening bracket or brace. -/
def Shape.readAt {σ : Type} (shape : Shape σ) (c : Char) (rest : List Char) :
    Outcome (List (String × σ)) :=
  if c = '\x7b' then
    match firstKey rest with
    | .error fault => .error fault
    | .ok next => members shape.onKey [] next
  else if c = '[' then fieldsInOrder firstItem shape.fields rest
  else .error (unexpected shape.title c rest)

/-- The reader of a record: the fields that were there, with their values, in the order in which
they stood. -/
def Shape.reader {σ : Type} (shape : Shape σ) : Reader (List (String × σ)) :=
  .byFirst shape.readAt <| by
    intro c text value rest read
    unfold Shape.readAt at read
    rw [List.length_cons]
    split at read
    · split at read
      · simp at read
      · rename_i next first
        have := firstKey_length first
        have := members_length read
        omega
    split at read
    · have := fieldsInOrder_length (fun step => firstItem_length step) read
      omega
    · simp at read

/-- What a name stands for among named variants. -/
def variant {α : Type} (variants : List (String × α)) (name : String) : Except Mismatch α :=
  match variants.lookup name with
  | some value => .ok value
  | none => .error (.unknownVariant name (variants.map (·.1)))

/-- The name of a variant, read behind its opening quote. -/
def variantName {α : Type} (variants : List (String × α)) (text : List Char) : Outcome α :=
  match string text with
  | .error fault => .error fault
  | .ok (name, rest) =>
    match variant variants name with
    | .error mismatch => .error (.before rest (.mismatch mismatch))
    | .ok value => .ok (value, rest)

/-- The opening quote of the one key of an object that names a variant. -/
def variantKey (text : List Char) : Except Fault (List Char) :=
  match skipSpace text with
  | [] => .error (.atEnd .eofObject)
  | c :: rest =>
    if c = '"' then .ok rest
    else if c = '\x7d' then .error (.on (c :: rest) .expectedValue)
    else .error (.on (c :: rest) .keyNotString)

/-- The closing brace behind the one member of an object that names a variant. -/
def variantEnd (text : List Char) : Except Fault (List Char) :=
  match skipSpace text with
  | [] => .error (.atEnd .eofObject)
  | c :: rest => if c = '\x7d' then .ok rest else .error (.before (c :: rest) .expectedValue)

/-- A variant as an object whose one key names it and whose value is `null`. -/
def variantObject {α : Type} (variants : List (String × α)) (text : List Char) : Outcome α :=
  match variantKey text with
  | .error fault => .error fault
  | .ok key =>
    match variantName variants key with
    | .error fault => .error fault
    | .ok (value, afterKey) =>
      match colon afterKey with
      | .error fault => .error fault
      | .ok body =>
        match nothing.run body with
        | .error fault => .error fault
        | .ok ((), afterBody) => (variantEnd afterBody).map fun rest => (value, rest)

/-- A variant, by its first character: its name, or an object with its name as the one key. -/
def variantAt {α : Type} (variants : List (String × α)) (c : Char) (rest : List Char) :
    Outcome α :=
  if c = '"' then variantName variants rest
  else if c = '\x7b' then variantObject variants rest
  else .error (.on (c :: rest) .expectedValue)

/-- The name of a variant leaves no longer text than it had behind its opening quote. -/
theorem variantName_length {α : Type} {variants : List (String × α)} {text rest : List Char}
    {value : α} (read : variantName variants text = .ok (value, rest)) :
    rest.length ≤ text.length := by
  unfold variantName at read
  split at read
  · simp at read
  · rename_i named
    have := string_length named
    split at read
    · simp at read
    · simp only [Except.ok.injEq, Prod.mk.injEq] at read
      rw [← read.2]
      exact this

/-- The opening quote of the one key of a variant is taken. -/
theorem variantKey_shorter {text rest : List Char} (read : variantKey text = .ok rest) :
    rest.length < text.length := by
  unfold variantKey at read
  split at read
  · simp at read
  · rename_i c tail skipped
    have := length_of_skipSpace_eq skipped
    split at read
    · simp only [Except.ok.injEq] at read
      rw [← read]
      exact this
    · split at read <;> simp at read

/-- The closing brace of a variant is taken. -/
theorem variantEnd_shorter {text rest : List Char} (read : variantEnd text = .ok rest) :
    rest.length < text.length := by
  unfold variantEnd at read
  split at read
  · simp at read
  · rename_i c tail skipped
    have := length_of_skipSpace_eq skipped
    split at read
    · simp only [Except.ok.injEq] at read
      rw [← read]
      exact this
    · simp at read

/-- A variant that is an object leaves no longer text than it had behind its opening brace. -/
theorem variantObject_length {α : Type} {variants : List (String × α)} {text rest : List Char}
    {value : α} (read : variantObject variants text = .ok (value, rest)) :
    rest.length ≤ text.length := by
  unfold variantObject at read
  split at read
  · simp at read
  rename_i key opened
  split at read
  · simp at read
  rename_i value' afterKey named
  split at read
  · simp at read
  rename_i body marked
  split at read
  · simp at read
  rename_i afterBody nulled
  cases ended : variantEnd afterBody with
  | error fault => simp [ended, Except.map] at read
  | ok last =>
    simp only [ended, Except.map, Except.ok.injEq, Prod.mk.injEq] at read
    have h₁ := variantKey_shorter opened
    have h₂ := variantName_length named
    have h₃ := colon_shorter marked
    have h₄ := nothing.shorter nulled
    have h₅ := variantEnd_shorter ended
    rw [← read.2]
    omega

/-- The reader of one of some named variants. -/
def oneOf {α : Type} (variants : List (String × α)) : Reader α :=
  .byFirst (variantAt variants) <| by
    intro c text value rest read
    unfold variantAt at read
    rw [List.length_cons]
    split at read
    · have := variantName_length read
      omega
    split at read
    · have := variantObject_length read
      omega
    · simp at read

end Embed.Json
