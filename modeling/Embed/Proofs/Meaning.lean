import Embed.Json.Record
import Embed.Proofs.Writing
/-!
# What readers make of what stands in a text

A reader of known things goes over the text itself, so that it can say where something does not fit.
Whether it accepts, and what it gives, depends all the same on nothing but the value that stands
there. `Means` says so of a reader: it names the function of the value that the reader computes. The
law holds of the readers of scalars and variants, and is kept by those of what may be absent and of
records; a record refuses a key that it does not have or has had before.
-/

namespace Embed.Json

variable {α β σ : Type}

/-- A reader makes of what stands in a text what a function makes of the value, and refuses it where
the function has no result. -/
def Means (reader : Reader α) (meaning : Value → Option α) : Prop :=
  ∀ ⦃text rest : List Char⦄ ⦃v : Value⦄, Stands text v rest →
    (reader.run text).toOption = (meaning v).map fun result => (result, rest)

/-- What has a result was no fault. -/
theorem eq_ok_of_toOption {ε : Type} {outcome : Except ε α} {result : α}
    (found : outcome.toOption = some result) : outcome = .ok result := by
  cases outcome with
  | error fault => contradiction
  | ok value => rw [Option.some.inj found]

/-- What has no result was a fault. -/
theorem exists_error_of_toOption {ε : Type} {outcome : Except ε α}
    (nothing : outcome.toOption = none) : ∃ fault, outcome = .error fault := by
  cases outcome with
  | error fault => exact ⟨fault, rfl⟩
  | ok value => contradiction

/-- What was no fault has a result. -/
theorem toOption_of_ok {ε : Type} {outcome : Except ε α} {result : α}
    (found : outcome = .ok result) : outcome.toOption = some result := by
  rw [found]
  rfl

/-- A function applied to what was read does not change whether it was. -/
theorem toOption_as (f : α → β) (outcome : Outcome α) :
    (outcome.as f).toOption = outcome.toOption.map fun read => (f read.1, read.2) := by
  cases outcome <;> rfl

/-- A mapped reader reads as the other one does. -/
theorem Reader.run_map (f : α → β) (reader : Reader α) (text : List Char) :
    (reader.map f).run text = (reader.run text).as f := by
  simp only [Reader.map]
  cases reader.run text <;> rfl

/-- A mapped reader means what the other one does, mapped. -/
theorem Means.map {reader : Reader α} {meaning : Value → Option α} (law : Means reader meaning)
    (f : α → β) : Means (reader.map f) fun v => (meaning v).map f := by
  intro text rest v stands
  change _ = ((meaning v).map f).map _
  rw [Reader.run_map, toOption_as, law stands]
  cases meaning v <;> rfl

/-- Where a text goes on with a character behind blanks, that character decides. -/
theorem atFirst_eq {step : Char → List Char → Outcome α} {c : Char} {text body : List Char}
    (first : skipSpace text = c :: body) : atFirst step text = step c body := by
  rw [atFirst, first]

/-! ## Scalars -/

/-- The truth value that a value is. -/
def booleanOf? : Value → Option Bool
  | .bool b => some b
  | _ => none

/-- The reader of truth values reads those and nothing else. -/
theorem means_boolean : Means boolean booleanOf? := by
  intro text rest v stands
  change (atFirst booleanAt text).toOption = _
  cases stands with
  | null first | string first | array first | object first =>
    rw [atFirst_eq first]
    rfl
  | true first spelled | false first spelled =>
    rw [atFirst_eq first]
    change (literal _ _ _).toOption = _
    rw [literal, spelled]
    rfl
  | number first begins =>
    rw [atFirst_eq first, booleanAt, if_neg (begins.ne (by decide) rfl),
      if_neg (begins.ne (by decide) rfl)]
    rfl

/-- The string that a value is. -/
def textOf? : Value → Option String
  | .string s => some s
  | _ => none

/-- The reader of strings reads those and nothing else. -/
theorem means_text : Means text textOf? := by
  intro text rest v stands
  change (atFirst textAt text).toOption = _
  cases stands with
  | null first | true first | false first | array first | object first =>
    rw [atFirst_eq first]
    rfl
  | string first quoted =>
    rw [atFirst_eq first]
    change (string _).toOption = _
    rw [string, quoted]
    rfl
  | number first begins =>
    rw [atFirst_eq first, textAt, if_neg (begins.ne (by decide) rfl)]
    rfl

/-- The count that a value is. -/
def countOf? : Value → Option Nat
  | .number n => (countOf n).toOption
  | _ => none

/-- The reader of counts reads those and nothing else. -/
theorem means_count : Means count countOf? := by
  intro text rest v stands
  change (atFirst countAt text).toOption = _
  cases stands with
  | null first | true first | false first | string first | array first | object first =>
    rw [atFirst_eq first]
    rfl
  | @number _ _ _ c n first begins digits =>
    have numeric : c = '-' ∨ c.isDigit = true := begins
    rw [atFirst_eq first, countAt, if_pos numeric, digits]
    simp only [countOf?]
    cases countOf n <;> rfl

/-- Whether a value is `null`. -/
def nothingOf? : Value → Option Unit
  | .null => some ()
  | _ => none

/-- The reader of `null` reads that and nothing else. -/
theorem means_nothing : Means nothing nothingOf? := by
  intro text rest v stands
  change (atFirst nothingAt text).toOption = _
  cases stands with
  | null first spelled =>
    rw [atFirst_eq first]
    change (literal _ _ _).toOption = _
    rw [literal, spelled]
    rfl
  | true first | false first | string first | array first | object first =>
    rw [atFirst_eq first]
    rfl
  | number first begins =>
    rw [atFirst_eq first, nothingAt, if_neg (begins.ne (by decide) rfl)]
    rfl

/-- What a value is that may be `null`. -/
def optionalOf? (meaning : Value → Option α) : Value → Option (Option α)
  | .null => some none
  | v => (meaning v).map some

/-- What does not begin as `null` does is read as it is otherwise. -/
theorem optional_run {reader : Reader α} {c : Char} {text body : List Char}
    (first : skipSpace text = c :: body) (other : c ≠ 'n') :
    (optional reader).run text = (reader.run text).as some := by
  simp only [optional, first]
  split
  · rename_i same
    exact absurd (List.cons.inj same).1 other
  · rfl

/-- The reader of what may be `null` reads that or what the other reader does. -/
theorem Means.optional {reader : Reader α} {meaning : Value → Option α}
    (law : Means reader meaning) : Means (optional reader) (optionalOf? meaning) := by
  intro text rest v stands
  have inner := law stands
  cases stands with
  | null first spelled =>
    simp only [Json.optional, first, literal, spelled]
    rfl
  | true first | false first | string first | array first | object first =>
    rw [optional_run first (by decide), toOption_as, inner, optionalOf?, Option.map_map,
      Option.map_map]
    · rfl
    · simp
  | number first begins =>
    rw [optional_run first (begins.ne (by decide) rfl), toOption_as, inner, optionalOf?,
      Option.map_map, Option.map_map]
    · rfl
    · simp

/-! ## Variants -/

/-- What a value names among variants: a string names one, and so does an object whose one member
has no value. -/
def variantOf? (variants : List (String × α)) : Value → Option α
  | .string name => variants.lookup name
  | .object [(name, v)] => (nothingOf? v).bind fun _ => variants.lookup name
  | _ => none

/-- An object ends at once, or begins with a key. -/
theorem firstKey_cases {text : List Char} {next : Next} (opened : firstKey text = .ok next) :
    (∃ rest, next = .close rest ∧ skipSpace text = '\x7d' :: rest) ∨
      ∃ entry, next = .entry entry ∧ skipSpace text = '"' :: entry := by
  unfold firstKey at opened
  split at opened
  · cases opened
  · rename_i c rest skipped
    split at opened
    · rename_i brace
      exact Or.inl ⟨rest, (Except.ok.inj opened).symm, brace ▸ skipped⟩
    · split at opened
      · rename_i quote
        exact Or.inr ⟨rest, (Except.ok.inj opened).symm, quote ▸ skipped⟩
      · cases opened

/-- Behind a member an object ends, or a comma follows. -/
theorem nextKey_cases {text : List Char} {next : Next} (following : nextKey text = .ok next) :
    (∃ rest, next = .close rest ∧ skipSpace text = '\x7d' :: rest) ∨
      ∃ entry tail, next = .entry entry ∧ skipSpace text = ',' :: tail := by
  unfold nextKey at following
  split at following
  · cases following
  · rename_i c rest skipped
    split at following
    · rename_i brace
      exact Or.inl ⟨rest, (Except.ok.inj following).symm, brace ▸ skipped⟩
    · split at following
      · rename_i comma
        split at following
        · cases following
        · split at following
          · cases following
          · split at following
            · exact Or.inr ⟨_, rest, (Except.ok.inj following).symm, comma ▸ skipped⟩
            · cases following
      · cases following

/-- A name is read as the variant that it names. -/
theorem variantName_eq {variants : List (String × α)} {text chars rest : List Char}
    (quoted : stringBody text = .ok (chars, rest)) :
    (variantName variants text).toOption =
      (variants.lookup (.ofList chars)).map fun result => (result, rest) := by
  simp only [variantName, string, quoted, variant]
  cases variants.lookup (String.ofList chars) <;> rfl

/-- An object that names a variant is read step by step. -/
theorem toOption_variantObject (variants : List (String × α)) (text : List Char) :
    (variantObject variants text).toOption =
      (variantKey text).toOption.bind fun key =>
        (variantName variants key).toOption.bind fun named =>
          (colon named.2).toOption.bind fun body =>
            (nothing.run body).toOption.bind fun nulled =>
              (variantEnd nulled.2).toOption.map fun rest => (named.1, rest) := by
  unfold variantObject
  cases variantKey text with
  | error => rfl
  | ok key =>
    dsimp only [Except.toOption, Option.bind]
    cases variantName variants key with
    | error => rfl
    | ok named =>
      dsimp only
      cases colon named.2 with
      | error => rfl
      | ok body =>
        dsimp only
        cases nothing.run body with
        | error => rfl
        | ok nulled =>
          dsimp only
          cases variantEnd nulled.2 <;> rfl

/-- An object is read as the variant that its one key names, if that has no value. -/
theorem variantObject_of_stand {variants : List (String × α)} {text rest : List Char}
    {next : Next} {members : List (String × Value)} (opened : firstKey text = .ok next)
    (inside : MembersStand Stands next members rest) :
    (variantObject variants text).toOption =
      (variantOf? variants (.object members)).map fun result => (result, rest) := by
  rw [toOption_variantObject]
  cases inside with
  | close rest =>
    obtain ⟨rest, -, skipped⟩ | ⟨entry, other, -⟩ := firstKey_cases opened
    · rw [variantKey, skipped]
      rfl
    · cases other
  | @entry entry key afterKey valueText left _ v others next quoted mark here following later =>
    have begun : (variantKey text).toOption = some entry := by
      obtain ⟨rest, other, -⟩ | ⟨entry, same, skipped⟩ := firstKey_cases opened
      · cases other
      · rw [variantKey, skipped, Next.entry.inj same]
        rfl
    simp only [begun, variantName_eq quoted, toOption_of_ok mark, means_nothing here,
      Option.bind_some, Option.bind_map, Function.comp_def]
    cases later with
    | close rest =>
      have ended : (variantEnd left).toOption = some rest := by
        obtain ⟨rest', same, skipped⟩ | ⟨entry, tail, other, -⟩ := nextKey_cases following
        · rw [variantEnd, skipped, Next.close.inj same]
          rfl
        · cases other
      simp only [ended, variantOf?]
      cases variants.lookup (String.ofList key) <;> cases nothingOf? v <;> rfl
    | entry =>
      have goesOn : (variantEnd left).toOption = none := by
        obtain ⟨rest', other, -⟩ | ⟨entry, tail, -, skipped⟩ := nextKey_cases following
        · cases other
        · rw [variantEnd, skipped]
          rfl
      simp only [goesOn, variantOf?]
      cases variants.lookup (String.ofList key) <;> cases nothingOf? v <;> rfl

/-- The reader of variants reads their names and objects that name them, and nothing else. -/
theorem means_oneOf (variants : List (String × α)) :
    Means (oneOf variants) (variantOf? variants) := by
  intro text rest v stands
  change (atFirst (variantAt variants) text).toOption = _
  cases stands with
  | null first | true first | false first | array first =>
    rw [atFirst_eq first]
    rfl
  | string first quoted =>
    rw [atFirst_eq first]
    exact variantName_eq quoted
  | object first opened inside =>
    rw [atFirst_eq first]
    exact variantObject_of_stand opened inside
  | number first begins =>
    rw [atFirst_eq first, variantAt, if_neg (begins.ne (by decide) rfl),
      if_neg (begins.ne (by decide) rfl)]
    rfl

/-! ## Records -/

/-- A field of a record: its name, the reader of its value, and what that reader makes of the
value. -/
structure KnownField (σ : Type) where
  /-- The name. -/
  name : String
  /-- The reader of the value. -/
  reader : Reader σ
  /-- What the reader makes of it. -/
  meaning : Value → Option σ
  /-- The reader makes that of it and nothing else. -/
  means : Means reader meaning

/-- A field as a shape has it. -/
def KnownField.entry (field : KnownField σ) : String × Reader σ :=
  (field.name, field.reader)

/-- The field of a name. -/
def field? (fields : List (KnownField σ)) (key : String) : Option (KnownField σ) :=
  fields.find? (key == ·.name)

/-- The reader that a shape has under a name is that of the field. -/
theorem lookup_entry (fields : List (KnownField σ)) (key : String) :
    (fields.map KnownField.entry).lookup key = (field? fields key).map KnownField.reader := by
  induction fields with
  | nil => rfl
  | cons field fields ih =>
    rw [field?, List.map_cons, KnownField.entry, List.lookup_cons, List.find?_cons]
    cases key == field.name with
    | true => rfl
    | false => exact ih

/-- The settings that members make, behind those gathered so far. There is no result for a key that
is no field's, for one that was there before, or for a value that its field refuses. -/
def gatherSettings? (fields : List (KnownField σ)) :
    List (String × σ) → List (String × Value) → Option (List (String × σ))
  | gathered, [] => some gathered
  | gathered, (key, value) :: members =>
    (field? fields key).bind fun field =>
      if (gathered.lookup key).isSome then none
      else
        (field.meaning value).bind fun setting =>
          gatherSettings? fields (gathered ++ [(key, setting)]) members

/-- The settings that items make, one for each field in order. -/
def settingsInOrder? : List (KnownField σ) → List Value → Option (List (String × σ))
  | _, [] => some []
  | [], _ :: _ => none
  | field :: fields, item :: items =>
    (field.meaning item).bind fun setting =>
      (settingsInOrder? fields items).map ((field.name, setting) :: ·)

/-- The settings that a value makes of a record. -/
def settingsOf? (fields : List (KnownField σ)) : Value → Option (List (String × σ))
  | .object members => gatherSettings? fields [] members
  | .array items => settingsInOrder? fields items
  | _ => none

/-- A key that is refused ends the reading of members. -/
theorem members_refused {onKey : OnKey σ} {gathered : σ} {text key afterKey : List Char}
    (quoted : stringBody text = .ok (key, afterKey))
    (refused : (onKey gathered (String.ofList key)).toOption = none) :
    (members onKey gathered (.entry text)).toOption = none := by
  obtain ⟨mismatch, refused⟩ := exists_error_of_toOption refused
  rw [members]
  split <;> rename_i read <;> rw [quoted] at read <;> cases read
  simp only [refused]
  rfl

/-- A value that is refused ends the reading of members. -/
theorem members_fault {onKey : OnKey σ} {gathered : σ} {text key afterKey valueText : List Char}
    {reader : Reader σ} (quoted : stringBody text = .ok (key, afterKey))
    (known : onKey gathered (String.ofList key) = .ok reader)
    (mark : colon afterKey = .ok valueText)
    (refused : (reader.run valueText).toOption = none) :
    (members onKey gathered (.entry text)).toOption = none := by
  obtain ⟨fault, here⟩ := exists_error_of_toOption refused
  rw [members]
  split <;> rename_i read <;> rw [quoted] at read <;> cases read
  simp only [known]
  split <;> rename_i read <;> rw [mark] at read <;> cases read
  split <;> rename_i read <;> rw [here] at read <;> cases read
  rfl

/-- The members of a record are read as the settings that they make. -/
theorem members_of_record {shape : Shape σ} {fields : List (KnownField σ)}
    (same : shape.fields = fields.map KnownField.entry) {next : Next} {list : List (String × Value)}
    {rest : List Char} (stand : MembersStand Stands next list rest)
    (gathered : List (String × σ)) :
    (members shape.onKey gathered next).toOption =
      (gatherSettings? fields gathered list).map fun settings => (settings, rest) := by
  induction stand generalizing gathered with
  | close rest =>
    rw [members_close]
    rfl
  | @entry text key afterKey valueText left rest v list next quoted mark here following _ ih =>
    have found := lookup_entry fields (String.ofList key)
    rw [← same] at found
    rw [gatherSettings?]
    cases known : field? fields (String.ofList key) with
    | none =>
      rw [known] at found
      refine members_refused quoted ?_
      simp only [Shape.onKey, found]
      rfl
    | some field =>
      rw [known] at found
      rw [Option.bind_some]
      by_cases repeated : (gathered.lookup (String.ofList key)).isSome = true
      · rw [if_pos repeated]
        refine members_refused quoted ?_
        simp only [Shape.onKey, found, if_pos repeated]
        rfl
      · have accepted : shape.onKey gathered (String.ofList key) =
            .ok (field.reader.map fun value => gathered ++ [(String.ofList key, value)]) := by
          simp only [Shape.onKey, found, if_neg repeated]
          rfl
        have read : _ = ((field.meaning v).map _).map _ :=
          Means.map field.means (fun value => gathered ++ [(String.ofList key, value)]) here
        rw [if_neg repeated]
        cases meant : field.meaning v with
        | none =>
          rw [meant] at read
          exact members_fault quoted accepted mark read
        | some setting =>
          rw [meant] at read
          rw [members_entry quoted accepted mark (eq_ok_of_toOption read) following]
          exact ih _

/-- A way to find out what comes next in an array: it ends, or something else stands there. -/
def LooksAhead (ahead : List Char → Except Fault Next) : Prop :=
  ∀ {text : List Char} {next : Next}, ahead text = .ok next →
    (∃ rest, next = .close rest ∧ skipSpace text = ']' :: rest) ∨
      ∃ entry c rest, next = .entry entry ∧ skipSpace text = c :: rest ∧ c ≠ ']'

/-- An array ends at once, or has an item. -/
theorem looksAhead_firstItem : LooksAhead firstItem := by
  intro text next opened
  unfold firstItem at opened
  split at opened
  · cases opened
  · rename_i c rest skipped
    split at opened
    · rename_i bracket
      exact Or.inl ⟨rest, (Except.ok.inj opened).symm, bracket ▸ skipped⟩
    · rename_i other
      exact Or.inr ⟨_, c, rest, (Except.ok.inj opened).symm, skipped, other⟩

/-- Behind an item an array ends, or a comma follows. -/
theorem looksAhead_nextItem : LooksAhead nextItem := by
  intro text next following
  unfold nextItem at following
  split at following
  · cases following
  · rename_i c rest skipped
    split at following
    · rename_i bracket
      exact Or.inl ⟨rest, (Except.ok.inj following).symm, bracket ▸ skipped⟩
    · rename_i other
      split at following
      · split at following
        · cases following
        · split at following
          · cases following
          · exact Or.inr ⟨_, c, rest, (Except.ok.inj following).symm, skipped, other⟩
      · cases following

/-- An array with more items than fields is refused. -/
theorem endOfFields_of_ne {text rest : List Char} {c : Char} (skipped : skipSpace text = c :: rest)
    (other : c ≠ ']') : (endOfFields text).toOption = none := by
  simp only [endOfFields, skipped, if_neg other]
  split
  · split <;> rfl
  · rfl

/-- The items of an array are read as the settings that they make of the fields in order. -/
theorem fieldsInOrder_of_stand {next : Next} {values : List Value} {rest : List Char}
    (stand : ItemsStand Stands next values rest) {ahead : List Char → Except Fault Next}
    (law : LooksAhead ahead) {text : List Char} (opened : ahead text = .ok next)
    (fields : List (KnownField σ)) :
    (fieldsInOrder ahead (fields.map KnownField.entry) text).toOption =
      (settingsInOrder? fields values).map fun settings => (settings, rest) := by
  induction stand generalizing ahead text fields with
  | close rest =>
    cases fields with
    | nil =>
      obtain ⟨rest', same, skipped⟩ | ⟨entry, c, tail, other, -⟩ := law opened
      · obtain rfl := Next.close.inj same
        simp only [List.map_nil, fieldsInOrder, endOfFields, skipped]
        rfl
      · cases other
    | cons field fields =>
      simp only [List.map_cons, KnownField.entry, fieldsInOrder, opened]
      rfl
  | @entry entry left rest v values next here following _ ih =>
    cases fields with
    | nil =>
      obtain ⟨rest', other, -⟩ | ⟨entry', c, tail, -, skipped, other⟩ := law opened
      · cases other
      · obtain ⟨fault, refused⟩ := exists_error_of_toOption (endOfFields_of_ne skipped other)
        simp only [List.map_nil, fieldsInOrder, refused]
        rfl
    | cons field fields =>
      have read := field.means here
      simp only [List.map_cons, KnownField.entry, fieldsInOrder, opened, settingsInOrder?]
      cases meant : field.meaning v with
      | none =>
        rw [meant] at read
        obtain ⟨fault, refused⟩ := exists_error_of_toOption read
        simp only [refused]
        rfl
      | some setting =>
        rw [meant] at read
        have others := ih looksAhead_nextItem following fields
        simp only [eq_ok_of_toOption read, toOption_as, Option.bind_some]
        rw [show (fieldsInOrder nextItem (fields.map KnownField.entry) left).toOption = _
          from others]
        cases settingsInOrder? fields values <;> rfl

/-- The reader of a record reads the settings that a value makes of its fields. -/
theorem means_shape {shape : Shape σ} {fields : List (KnownField σ)}
    (same : shape.fields = fields.map KnownField.entry) :
    Means shape.reader (settingsOf? fields) := by
  intro text rest v stands
  change (atFirst shape.readAt text).toOption = _
  cases stands with
  | null first | true first | false first | string first =>
    rw [atFirst_eq first]
    rfl
  | object first opened inside =>
    have read := members_of_record same inside []
    rw [atFirst_eq first]
    simpa only [Shape.readAt, opened, if_true, settingsOf?] using read
  | array first opened inside =>
    rw [atFirst_eq first]
    change (fieldsInOrder firstItem shape.fields _).toOption = _
    rw [same]
    exact fieldsInOrder_of_stand inside looksAhead_firstItem opened fields
  | number first begins =>
    rw [atFirst_eq first, Shape.readAt, if_neg (begins.ne (by decide) rfl),
      if_neg (begins.ne (by decide) rfl)]
    rfl

end Embed.Json
