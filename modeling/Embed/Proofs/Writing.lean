import Embed.Proofs.Members
/-!
# What stands in a JSON text

Reading a value loses how it was written: members are put in order, and of those under one key only
the last is kept. `Stands` says what a text writes before that is lost. It is the grammar of values
as a relation, one case for each way in which a value can begin, and an object in it has the members
that stand in the text, in their order and as often as they stand there. The first character tells
the kind of a value, so a text writes at most one (`Written.unique`). Every text that denotes a value
writes one (`written_of_parse`), of which `tidy` is what is read.
-/

namespace Embed.Json

/-- A number begins with a minus or a digit. -/
def BeginsNumber (c : Char) : Prop :=
  c = '-' ∨ c.isDigit = true

/-- What begins a number is no other character. -/
theorem BeginsNumber.ne {c d : Char} (begins : BeginsNumber c) (minus : d ≠ '-')
    (digit : d.isDigit = false) : c ≠ d := by
  rintro rfl
  rcases begins with rfl | found
  · exact minus rfl
  · rw [digit] at found
    contradiction

/-- Items stand in a text, from what comes next to the closing bracket. -/
inductive ItemsStand (stands : List Char → Value → List Char → Prop) :
    Next → List Value → List Char → Prop
  /-- The array ends. -/
  | close (rest : List Char) : ItemsStand stands (.close rest) [] rest
  /-- One item stands here, and others behind it. -/
  | entry {text left rest : List Char} {value : Value} {values : List Value} {next : Next}
      (here : stands text value left) (following : nextItem left = .ok next)
      (others : ItemsStand stands next values rest) :
      ItemsStand stands (.entry text) (value :: values) rest

/-- Members stand in a text, from what comes next to the closing brace. -/
inductive MembersStand (stands : List Char → Value → List Char → Prop) :
    Next → List (String × Value) → List Char → Prop
  /-- The object ends. -/
  | close (rest : List Char) : MembersStand stands (.close rest) [] rest
  /-- One member stands here, and others behind it. -/
  | entry {text key afterKey valueText left rest : List Char} {value : Value}
      {members : List (String × Value)} {next : Next}
      (quoted : stringBody text = .ok (key, afterKey)) (mark : colon afterKey = .ok valueText)
      (here : stands valueText value left) (following : nextKey left = .ok next)
      (others : MembersStand stands next members rest) :
      MembersStand stands (.entry text) ((String.ofList key, value) :: members) rest

/-- A value stands at the front of a text, behind blanks, with the rest of the text behind it. -/
inductive Stands : List Char → Value → List Char → Prop
  /-- The literal `null`. -/
  | null {text body rest : List Char} (first : skipSpace text = 'n' :: body)
      (spelled : word ['u', 'l', 'l'] body = .ok rest) : Stands text .null rest
  /-- The literal `true`. -/
  | true {text body rest : List Char} (first : skipSpace text = 't' :: body)
      (spelled : word ['r', 'u', 'e'] body = .ok rest) : Stands text (.bool true) rest
  /-- The literal `false`. -/
  | false {text body rest : List Char} (first : skipSpace text = 'f' :: body)
      (spelled : word ['a', 'l', 's', 'e'] body = .ok rest) : Stands text (.bool false) rest
  /-- A string. -/
  | string {text body chars rest : List Char} (first : skipSpace text = '"' :: body)
      (quoted : stringBody body = .ok (chars, rest)) :
      Stands text (.string (.ofList chars)) rest
  /-- A number. -/
  | number {text body rest : List Char} {c : Char} {n : Number} (first : skipSpace text = c :: body)
      (begins : BeginsNumber c) (digits : number (c :: body) = .ok (n, rest)) :
      Stands text (.number n) rest
  /-- An array. -/
  | array {text body rest : List Char} {next : Next} {values : List Value}
      (first : skipSpace text = '[' :: body) (opened : firstItem body = .ok next)
      (inside : ItemsStand Stands next values rest) : Stands text (.array values) rest
  /-- An object. -/
  | object {text body rest : List Char} {next : Next} {members : List (String × Value)}
      (first : skipSpace text = '\x7b' :: body) (opened : firstKey body = .ok next)
      (inside : MembersStand Stands next members rest) : Stands text (.object members) rest

/-- A text writes a value: the value stands in it, with nothing but blanks around it. -/
def Written (text : String) (v : Value) : Prop :=
  ∃ rest, Stands text.toList v rest ∧ skipSpace rest = []

/-! ## Only one value stands at a place -/

/-- A text goes on in one way behind its blanks. -/
theorem first_unique {text body body' : List Char} {c d : Char} (first : skipSpace text = c :: body)
    (also : skipSpace text = d :: body') : c = d ∧ body = body' :=
  List.cons.inj (first.symm.trans also)

/-- Where a value stands no other does, and one rest is behind it. -/
def Alone (v : Value) : Prop :=
  ∀ ⦃text rest rest' : List Char⦄ ⦃w : Value⦄, Stands text v rest → Stands text w rest' →
    v = w ∧ rest = rest'

/-- Items stand in a text in one way if each of them stands alone. -/
theorem ItemsStand.unique {next : Next} {values values' : List Value} {rest rest' : List Char}
    (stand : ItemsStand Stands next values rest) (alone : ∀ v ∈ values, Alone v)
    (also : ItemsStand Stands next values' rest') : values = values' ∧ rest = rest' := by
  induction stand generalizing values' with
  | close rest =>
    cases also
    exact ⟨rfl, rfl⟩
  | entry here following _ ih =>
    cases also with
    | entry here' following' others =>
      obtain ⟨rfl, rfl⟩ := alone _ List.mem_cons_self here here'
      obtain rfl := Except.ok.inj (following.symm.trans following')
      obtain ⟨rfl, rfl⟩ := ih (fun v inside => alone v (List.mem_cons_of_mem _ inside)) others
      exact ⟨rfl, rfl⟩

/-- Members stand in a text in one way if the value of each stands alone. -/
theorem MembersStand.unique {next : Next} {members members' : List (String × Value)}
    {rest rest' : List Char} (stand : MembersStand Stands next members rest)
    (alone : ∀ member ∈ members, Alone member.2)
    (also : MembersStand Stands next members' rest') : members = members' ∧ rest = rest' := by
  induction stand generalizing members' with
  | close rest =>
    cases also
    exact ⟨rfl, rfl⟩
  | entry quoted mark here following _ ih =>
    cases also with
    | entry quoted' mark' here' following' others =>
      obtain ⟨rfl, rfl⟩ := Prod.mk.inj (Except.ok.inj (quoted.symm.trans quoted'))
      obtain rfl := Except.ok.inj (mark.symm.trans mark')
      obtain ⟨rfl, rfl⟩ := alone _ List.mem_cons_self here here'
      obtain rfl := Except.ok.inj (following.symm.trans following')
      obtain ⟨rfl, rfl⟩ := ih (fun member inside => alone member (List.mem_cons_of_mem _ inside))
        others
      exact ⟨rfl, rfl⟩

/-- Where `null` stands nothing else begins. -/
theorem alone_null : Alone .null := by
  intro text rest rest' w stands also
  cases stands with
  | null first spelled =>
    cases also with
    | null first' spelled' =>
      obtain ⟨-, rfl⟩ := first_unique first first'
      exact ⟨rfl, Except.ok.inj (spelled.symm.trans spelled')⟩
    | true first' | false first' | string first' | array first' | object first' =>
      exact absurd (first_unique first first').1 (by decide)
    | number first' begins =>
      exact absurd (first_unique first first').1.symm (begins.ne (by decide) rfl)

/-- Where a truth value stands nothing else begins. -/
theorem alone_bool (b : Bool) : Alone (.bool b) := by
  intro text rest rest' w stands also
  cases stands with
  | true first spelled =>
    cases also with
    | true first' spelled' =>
      obtain ⟨-, rfl⟩ := first_unique first first'
      exact ⟨rfl, Except.ok.inj (spelled.symm.trans spelled')⟩
    | null first' | false first' | string first' | array first' | object first' =>
      exact absurd (first_unique first first').1 (by decide)
    | number first' begins =>
      exact absurd (first_unique first first').1.symm (begins.ne (by decide) rfl)
  | false first spelled =>
    cases also with
    | false first' spelled' =>
      obtain ⟨-, rfl⟩ := first_unique first first'
      exact ⟨rfl, Except.ok.inj (spelled.symm.trans spelled')⟩
    | null first' | true first' | string first' | array first' | object first' =>
      exact absurd (first_unique first first').1 (by decide)
    | number first' begins =>
      exact absurd (first_unique first first').1.symm (begins.ne (by decide) rfl)

/-- Where a string stands nothing else begins, and it has one end. -/
theorem alone_string (s : String) : Alone (.string s) := by
  intro text rest rest' w stands also
  cases stands with
  | string first quoted =>
    cases also with
    | string first' quoted' =>
      obtain ⟨-, rfl⟩ := first_unique first first'
      obtain ⟨rfl, rfl⟩ := Prod.mk.inj (Except.ok.inj (quoted.symm.trans quoted'))
      exact ⟨rfl, rfl⟩
    | null first' | true first' | false first' | array first' | object first' =>
      exact absurd (first_unique first first').1 (by decide)
    | number first' begins =>
      exact absurd (first_unique first first').1.symm (begins.ne (by decide) rfl)

/-- Where a number stands nothing else begins, and it has one end. -/
theorem alone_number (n : Number) : Alone (.number n) := by
  intro text rest rest' w stands also
  cases stands with
  | number first begins digits =>
    cases also with
    | number first' _ digits' =>
      obtain ⟨rfl, rfl⟩ := first_unique first first'
      obtain ⟨rfl, rfl⟩ := Prod.mk.inj (Except.ok.inj (digits.symm.trans digits'))
      exact ⟨rfl, rfl⟩
    | null first' | true first' | false first' | string first' | array first' | object first' =>
      exact absurd (first_unique first first').1 (begins.ne (by decide) rfl)

/-- Where an array stands nothing else begins, and its items are known if each stands alone. -/
theorem alone_array {values : List Value} (alone : ∀ v ∈ values, Alone v) :
    Alone (.array values) := by
  intro text rest rest' w stands also
  cases stands with
  | array first opened inside =>
    cases also with
    | array first' opened' inside' =>
      obtain ⟨-, rfl⟩ := first_unique first first'
      obtain rfl := Except.ok.inj (opened.symm.trans opened')
      obtain ⟨rfl, rfl⟩ := inside.unique alone inside'
      exact ⟨rfl, rfl⟩
    | null first' | true first' | false first' | string first' | object first' =>
      exact absurd (first_unique first first').1 (by decide)
    | number first' begins =>
      exact absurd (first_unique first first').1.symm (begins.ne (by decide) rfl)

/-- Where an object stands nothing else begins, and its members are known if each value stands
alone. -/
theorem alone_object {members : List (String × Value)}
    (alone : ∀ member ∈ members, Alone member.2) : Alone (.object members) := by
  intro text rest rest' w stands also
  cases stands with
  | object first opened inside =>
    cases also with
    | object first' opened' inside' =>
      obtain ⟨-, rfl⟩ := first_unique first first'
      obtain rfl := Except.ok.inj (opened.symm.trans opened')
      obtain ⟨rfl, rfl⟩ := inside.unique alone inside'
      exact ⟨rfl, rfl⟩
    | null first' | true first' | false first' | string first' | array first' =>
      exact absurd (first_unique first first').1 (by decide)
    | number first' begins =>
      exact absurd (first_unique first first').1.symm (begins.ne (by decide) rfl)

mutual

/-- Every value stands alone. -/
theorem alone : (v : Value) → Alone v
  | .null => alone_null
  | .bool b => alone_bool b
  | .number n => alone_number n
  | .string s => alone_string s
  | .array items => alone_array (alone_items items)
  | .object members => alone_object (alone_members members)

/-- Every item stands alone. -/
theorem alone_items : (items : List Value) → ∀ v ∈ items, Alone v
  | [] => List.forall_mem_nil _
  | item :: items => List.forall_mem_cons.mpr ⟨alone item, alone_items items⟩

/-- The value of every member stands alone. -/
theorem alone_members : (members : List (String × Value)) → ∀ member ∈ members, Alone member.2
  | [] => List.forall_mem_nil _
  | (_, value) :: members => List.forall_mem_cons.mpr ⟨alone value, alone_members members⟩

end

/-- A text writes one value only. -/
theorem Written.unique {text : String} {v w : Value} (written : Written text v)
    (also : Written text w) : v = w := by
  obtain ⟨rest, stands, -⟩ := written
  obtain ⟨rest', stands', -⟩ := also
  exact (alone v stands stands').1

/-! ## What is read -/

mutual

/-- A value with the members of all its objects gathered. -/
def Value.tidy : Value → Value
  | .array items => .array (tidyItems items)
  | .object members => .object (gather (tidyMembers members))
  | .null => .null
  | .bool b => .bool b
  | .number n => .number n
  | .string s => .string s

/-- Items, each of them tidy. -/
def tidyItems : List Value → List Value
  | [] => []
  | item :: items => item.tidy :: tidyItems items

/-- Members as they are written, each value tidy. -/
def tidyMembers : List (String × Value) → List (String × Value)
  | [] => []
  | (key, value) :: members => (key, value.tidy) :: tidyMembers members

end

/-- What a reader reads is the tidy form of what stands there. -/
def ReadsTidy (reader : Reader Value) : Prop :=
  ∀ {text rest : List Char} {found : Value}, reader.run text = .ok (found, rest) →
    ∃ v, Stands text v rest ∧ v.tidy = found

/-- Items that are read stand in the text. -/
theorem itemsStand_of_items {reader : Reader Value} (law : ReadsTidy reader) {next : Next}
    {values : List Value} {rest : List Char} (read : items reader next = .ok (values, rest)) :
    ∃ written, ItemsStand Stands next written rest ∧ tidyItems written = values := by
  fun_induction items reader next generalizing values rest with
  | case1 rest' =>
    simp only [Except.ok.injEq, Prod.mk.injEq] at read
    obtain ⟨rfl, rfl⟩ := read
    exact ⟨[], .close rest', rfl⟩
  | case2 | case3 | case4 => simp at read
  | case5 text value left here next following smaller values' last inner ih =>
    simp only [Except.ok.injEq, Prod.mk.injEq] at read
    obtain ⟨rfl, rfl⟩ := read
    obtain ⟨v, stands, rfl⟩ := law here
    obtain ⟨written, others, rfl⟩ := ih inner
    exact ⟨v :: written, .entry stands following others, rfl⟩

/-- Members that are read stand in the text, and what is read is what they make, put behind those
that were read before. -/
theorem membersStand_of_members {reader : Reader Value} (law : ReadsTidy reader)
    {earlier fields : List (String × Value)} {next : Next} {rest : List Char}
    (read : members (insertKey reader) (gather earlier) next = .ok (fields, rest)) :
    ∃ written, MembersStand Stands next written rest ∧
      fields = gather (earlier ++ tidyMembers written) := by
  generalize start : gather earlier = gathered at read
  fun_induction members (insertKey reader) gathered next generalizing earlier with
  | case1 gathered rest' =>
    simp only [Except.ok.injEq, Prod.mk.injEq] at read
    obtain ⟨rfl, rfl⟩ := read
    exact ⟨[], .close rest', by rw [tidyMembers, List.append_nil, start]⟩
  | case2 | case3 | case4 | case5 | case6 => simp at read
  | case7 gathered text key afterKey quoted kept known valueText mark gathered' left here next
      following smaller ih =>
    obtain rfl := Except.ok.inj known
    obtain ⟨found, inner, rfl⟩ := Reader.map_run.mp here
    obtain ⟨v, stands, rfl⟩ := law inner
    have grown : gather (earlier ++ [(String.ofList key, v.tidy)]) =
        insertMember (String.ofList key) v.tidy gathered := by
      rw [gather_concat, start]
    obtain ⟨written, others, same⟩ := ih grown read
    refine ⟨(String.ofList key, v) :: written, .entry quoted mark stands following others, ?_⟩
    rw [same, tidyMembers, List.append_assoc, List.singleton_append]

/-- A literal that is read is spelled out, and is read as the value that it stands for. -/
theorem literal_eq_ok {α : Type} {letters text rest : List Char} {meant found : α}
    (read : literal letters meant text = .ok (found, rest)) :
    found = meant ∧ word letters text = .ok rest := by
  unfold literal at read
  split at read
  · contradiction
  · rename_i spelled
    obtain ⟨rfl, rfl⟩ := Prod.mk.inj (Except.ok.inj read)
    exact ⟨rfl, spelled⟩

/-- A string that is read is a quoted one. -/
theorem stringBody_of_string {text rest : List Char} {s : String}
    (read : string text = .ok (s, rest)) :
    ∃ chars, stringBody text = .ok (chars, rest) ∧ s = .ofList chars := by
  unfold string at read
  split at read
  · contradiction
  · rename_i chars left quoted
    obtain ⟨rfl, rfl⟩ := Prod.mk.inj (Except.ok.inj read)
    exact ⟨chars, quoted, rfl⟩

/-- An array that is read stands there, if its items do. -/
theorem stands_of_array {reader : Reader Value} (law : ReadsTidy reader)
    {text body rest : List Char} {found : Value} (first : skipSpace text = '[' :: body)
    (read : array reader body = .ok (found, rest)) : ∃ v, Stands text v rest ∧ v.tidy = found := by
  unfold array at read
  split at read
  · contradiction
  · rename_i next opened
    split at read
    · contradiction
    · rename_i values left inner
      obtain ⟨rfl, rfl⟩ := Prod.mk.inj (Except.ok.inj read)
      obtain ⟨written, inside, rfl⟩ := itemsStand_of_items law inner
      exact ⟨.array written, .array first opened inside, by rw [Value.tidy]⟩

/-- An object that is read stands there, if the values of its members do. -/
theorem stands_of_object {reader : Reader Value} (law : ReadsTidy reader)
    {text body rest : List Char} {found : Value} (first : skipSpace text = '\x7b' :: body)
    (read : object reader body = .ok (found, rest)) :
    ∃ v, Stands text v rest ∧ v.tidy = found := by
  unfold object at read
  split at read
  · contradiction
  · rename_i next opened
    split at read
    · contradiction
    · rename_i fields left inner
      obtain ⟨rfl, rfl⟩ := Prod.mk.inj (Except.ok.inj read)
      obtain ⟨written, inside, rfl⟩ := @membersStand_of_members _ law [] _ _ _ inner
      exact ⟨.object written, .object first opened inside, by rw [Value.tidy, List.nil_append]⟩

/-- What is read by its first character stands there, if what is nested in it does. -/
theorem stands_of_valueAt {nested : Option (Reader Value)}
    (law : ∀ reader, nested = some reader → ReadsTidy reader) {c : Char}
    {text body rest : List Char} {found : Value} (first : skipSpace text = c :: body)
    (read : valueAt nested c body = .ok (found, rest)) :
    ∃ v, Stands text v rest ∧ v.tidy = found := by
  unfold valueAt at read
  split at read
  · rename_i letter
    rw [letter] at first
    obtain ⟨rfl, spelled⟩ := literal_eq_ok read
    exact ⟨.null, .null first spelled, by rw [Value.tidy]⟩
  split at read
  · rename_i letter
    rw [letter] at first
    obtain ⟨rfl, spelled⟩ := literal_eq_ok read
    exact ⟨.bool true, .true first spelled, by rw [Value.tidy]⟩
  split at read
  · rename_i letter
    rw [letter] at first
    obtain ⟨rfl, spelled⟩ := literal_eq_ok read
    exact ⟨.bool false, .false first spelled, by rw [Value.tidy]⟩
  split at read
  · rename_i quote
    rw [quote] at first
    obtain ⟨s, inner, rfl⟩ := Outcome.as_eq_ok read
    obtain ⟨chars, quoted, rfl⟩ := stringBody_of_string inner
    exact ⟨.string (.ofList chars), .string first quoted, by rw [Value.tidy]⟩
  split at read
  · rename_i begins
    obtain ⟨n, digits, rfl⟩ := Outcome.as_eq_ok read
    exact ⟨.number n, .number first begins digits, by rw [Value.tidy]⟩
  split at read
  · rename_i bracket
    rw [bracket] at first
    split at read
    · contradiction
    · rename_i reader
      exact stands_of_array (law reader rfl) first read
  split at read
  · rename_i brace
    rw [brace] at first
    split at read
    · contradiction
    · rename_i reader
      exact stands_of_object (law reader rfl) first read
  · contradiction

/-- What is read through the first character behind blanks is read behind that character. -/
theorem first_of_atFirst {α : Type} {step : Char → List Char → Outcome α} {text rest : List Char}
    {found : α} (read : atFirst step text = .ok (found, rest)) :
    ∃ c body, skipSpace text = c :: body ∧ step c body = .ok (found, rest) := by
  unfold atFirst at read
  split at read
  · contradiction
  · rename_i c body first
    exact ⟨c, body, first, read⟩

/-- Every value that is read is the tidy form of what stands there. -/
theorem readsTidy_value (depth : Nat) : ReadsTidy (value depth) := by
  induction depth with
  | zero =>
    intro text rest found read
    obtain ⟨c, body, first, inner⟩ := first_of_atFirst read
    exact stands_of_valueAt (fun reader absent => by contradiction) first inner
  | succ depth ih =>
    intro text rest found read
    obtain ⟨c, body, first, inner⟩ := first_of_atFirst read
    refine stands_of_valueAt ?_ first inner
    intro reader same
    obtain rfl := Option.some.inj same
    exact ih

/-- A text that denotes a value writes one of which that is the tidy form. -/
theorem written_of_parse {text : String} {found : Value} (parsed : parse text = .ok found) :
    ∃ v, Written text v ∧ v.tidy = found := by
  unfold parse readAll at parsed
  split at parsed
  · contradiction
  · rename_i result rest read
    split at parsed
    · rename_i ended
      obtain rfl := Except.ok.inj parsed
      obtain ⟨v, stands, same⟩ := readsTidy_value maxDepth read
      exact ⟨v, ⟨rest, stands, ended⟩, same⟩
    · contradiction

/-- Members are made tidy one by one. -/
theorem tidyMembers_eq_map (members : List (String × Value)) :
    tidyMembers members = members.map fun member => (member.1, member.2.tidy) := by
  induction members with
  | nil => rfl
  | cons member members ih =>
    rw [List.map_cons, ← ih]
    rfl

/-- A member that is made tidy is found where it was. -/
theorem lookup_tidyMembers (members : List (String × Value)) (name : String) :
    (tidyMembers members).lookup name = (members.lookup name).map Value.tidy := by
  induction members with
  | nil => rfl
  | cons member members ih =>
    obtain ⟨key, value⟩ := member
    rw [tidyMembers, lookup_member, lookup_member, ih]
    split <;> rfl

/-- A text that denotes an object writes one and nothing else, and of the members that it writes under
a name the last one is found. -/
theorem lookup_of_parse {text : String} {fields : List (String × Value)}
    (parsed : parse text = .ok (.object fields)) :
    ∃ written, (∀ v, Written text v ↔ v = .object written) ∧
      ∀ name, fields.lookup name = (written.reverse.lookup name).map Value.tidy := by
  obtain ⟨v, writes, same⟩ := written_of_parse parsed
  cases v with
  | object written =>
    obtain rfl := Value.object.inj same
    refine ⟨written, fun v => ⟨fun also => also.unique writes, fun same => same ▸ writes⟩,
      fun name => ?_⟩
    rw [lookup_gather, tidyMembers_eq_map, ← List.map_reverse, ← tidyMembers_eq_map,
      lookup_tidyMembers]
  | null | bool | number | string | array => contradiction

end Embed.Json
