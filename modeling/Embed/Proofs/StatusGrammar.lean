import Embed.Progress
import Embed.Proofs.Scrollback
import Mathlib.Data.List.TakeWhile
/-!
# The grammar of progress in a status line

A status line reports progress if and only if it can be taken apart as a `ProgressLine`: a text, two
counts with a slash between them in parentheses, and a text without another opening one, where the
counts are numbers. The reader looks for the last opening parenthesis, the first closing one behind
it and the first slash between the two, so the parts that it finds are the only ones there are.

It can find them in bytes. `bytewiseSample` searches for the bytes at which the parentheses start
and cuts the line there, and a cut inside a character, beyond the end or back to front has no
result. The parentheses are one byte long, so none of its cuts is such a one.
-/

namespace Embed

namespace Text

variable {c : Char} {text front rest : List Char}

/-- A text is split at the first occurrence of a character. -/
theorem splitFirst?_append (free : c ∉ front) (rest : List Char) :
    splitFirst? c (front ++ c :: rest) = some (front, rest) := by
  have passes : ∀ d ∈ front, (d != c) = true := by
    intro d member
    simpa using fun same : d = c => free (same ▸ member)
  simp [splitFirst?, List.dropWhile_append_of_pos passes, List.takeWhile_append_of_pos passes]

/-- A text without a character is not split at it. -/
theorem splitFirst?_of_notMem (free : c ∉ text) : splitFirst? c text = none := by
  have nothing : text.dropWhile (· != c) = [] := by
    rw [List.dropWhile_eq_nil_iff]
    intro d member
    simpa using fun same : d = c => free (same ▸ member)
  simp [splitFirst?, nothing]

/-- What a text is split into at a character is that text again, the first part without the
character. -/
theorem splitFirst?_eq_some_iff :
    splitFirst? c text = some (front, rest) ↔ text = front ++ c :: rest ∧ c ∉ front := by
  constructor
  · intro split
    by_cases occurs : c ∈ text
    · obtain ⟨first, last, rfl, free⟩ := List.eq_append_cons_of_mem occurs
      rw [splitFirst?_append free, Option.some.injEq, Prod.mk.injEq] at split
      obtain ⟨rfl, rfl⟩ := split
      exact ⟨rfl, free⟩
    · rw [splitFirst?_of_notMem occurs] at split
      contradiction
  · rintro ⟨rfl, free⟩
    exact splitFirst?_append free rest

/-- A character that occurs in a text has a last occurrence. -/
theorem eq_append_last_of_mem (occurs : c ∈ text) :
    ∃ front rest, text = front ++ c :: rest ∧ c ∉ rest := by
  obtain ⟨last, first, split, free⟩ := List.eq_append_cons_of_mem (List.mem_reverse.mpr occurs)
  refine ⟨first.reverse, last.reverse, ?_, by simpa using free⟩
  rw [← List.reverse_reverse text, split]
  simp

/-- Behind the last occurrence of a character stands what does not contain it. -/
theorem afterLast?_append (front : List Char) (free : c ∉ rest) :
    afterLast? c (front ++ c :: rest) = some rest := by
  have passes : ∀ d ∈ rest.reverse, (d != c) = true := by
    intro d member
    simpa using fun same : d = c => free (same ▸ List.mem_reverse.mp member)
  have backwards : (front ++ c :: rest).reverse = rest.reverse ++ c :: front.reverse := by simp
  rw [afterLast?, if_pos (by simp), backwards, List.takeWhile_append_of_pos passes]
  simp

/-- Nothing stands behind a character that does not occur. -/
theorem afterLast?_of_notMem (free : c ∉ text) : afterLast? c text = none :=
  if_neg free

/-- What stands behind the last occurrence of a character does not contain it. -/
theorem afterLast?_eq_some_iff :
    afterLast? c text = some rest ↔ ∃ front, text = front ++ c :: rest ∧ c ∉ rest := by
  constructor
  · intro found
    by_cases occurs : c ∈ text
    · obtain ⟨front, last, rfl, free⟩ := eq_append_last_of_mem occurs
      rw [afterLast?_append front free, Option.some.injEq] at found
      obtain rfl := found
      exact ⟨front, rfl, free⟩
    · rw [afterLast?_of_notMem occurs] at found
      contradiction
  · rintro ⟨front, rfl, free⟩
    exact afterLast?_append front free

end Text

/-- A status line taken apart around the group that counts. -/
@[ext]
structure ProgressLine where
  /-- What stands before the group. -/
  before : List Char
  /-- What stands before the first slash in the group. -/
  loaded : List Char
  /-- What stands behind that slash. -/
  total : List Char
  /-- What stands behind the group. -/
  behind : List Char
  /-- The count before the slash has no mark of the group in it. -/
  loaded_plain : '(' ∉ loaded ∧ ')' ∉ loaded ∧ '/' ∉ loaded
  /-- The count behind the slash has no parenthesis in it. -/
  total_plain : '(' ∉ total ∧ ')' ∉ total
  /-- No other group is opened behind this one. -/
  behind_plain : '(' ∉ behind

namespace ProgressLine

/-- What stands between the parentheses. -/
def group (parts : ProgressLine) : List Char :=
  parts.loaded ++ '/' :: parts.total

/-- What stands behind the opening parenthesis. -/
def opened (parts : ProgressLine) : List Char :=
  parts.group ++ ')' :: parts.behind

/-- The line. -/
def text (parts : ProgressLine) : List Char :=
  parts.before ++ '(' :: parts.opened

/-- The last opening parenthesis is that of the group. -/
theorem afterLast?_text (parts : ProgressLine) :
    Text.afterLast? '(' parts.text = some parts.opened := by
  apply Text.afterLast?_append
  simp [opened, group, parts.loaded_plain.1, parts.total_plain.1, parts.behind_plain]

/-- The first closing parenthesis behind it is that of the group. -/
theorem splitFirst?_opened (parts : ProgressLine) :
    Text.splitFirst? ')' parts.opened = some (parts.group, parts.behind) := by
  apply Text.splitFirst?_append
  simp [group, parts.loaded_plain.2.1, parts.total_plain.2]

/-- The first slash in the group stands between the counts. -/
theorem splitFirst?_group (parts : ProgressLine) :
    Text.splitFirst? '/' parts.group = some (parts.loaded, parts.total) :=
  Text.splitFirst?_append parts.loaded_plain.2.2 parts.total

/-- A line can be taken apart in one way at most. -/
theorem text_injective {parts other : ProgressLine} (same : parts.text = other.text) :
    parts = other := by
  have opened : parts.opened = other.opened := by
    rw [← Option.some.injEq, ← afterLast?_text, ← afterLast?_text, same]
  have outer : (parts.group, parts.behind) = (other.group, other.behind) := by
    rw [← Option.some.injEq, ← splitFirst?_opened, ← splitFirst?_opened, opened]
  obtain ⟨group, behind⟩ := Prod.mk.inj outer
  have inner : (parts.loaded, parts.total) = (other.loaded, other.total) := by
    rw [← Option.some.injEq, ← splitFirst?_group, ← splitFirst?_group, group]
  obtain ⟨loaded, total⟩ := Prod.mk.inj inner
  have before : parts.before = other.before := by
    rw [text, text, opened] at same
    exact List.append_cancel_right same
  exact ProgressLine.ext before loaded total behind

/-- The observation that the counts amount to, if they are numbers. -/
def sample? (parts : ProgressLine) : Option Sample := do
  let loaded ← paddedNumber? parts.loaded
  let total ← paddedNumber? parts.total
  return .bytes loaded total

/-- There is an observation if and only if both counts are numbers. -/
theorem sample?_eq_some_iff (parts : ProgressLine) {sample : Sample} :
    parts.sample? = some sample ↔
      ∃ loaded total, Decimal.number? (Text.trim parts.loaded) = some loaded ∧
        Decimal.number? (Text.trim parts.total) = some total ∧ sample = .bytes loaded total := by
  simp only [sample?, paddedNumber?, Option.bind_eq_bind, Option.bind_eq_some_iff, Option.pure_def,
    Option.some.injEq]
  constructor
  · rintro ⟨loaded, first, total, second, rfl⟩
    exact ⟨loaded, total, first, second, rfl⟩
  · rintro ⟨loaded, total, first, second, rfl⟩
    exact ⟨loaded, first, total, second, rfl⟩

end ProgressLine

/-- The observation in what stands between two parentheses. -/
def groupSample? (group : List Char) : Option Sample := do
  let (loaded, total) ← Text.splitFirst? '/' group
  let loaded ← paddedNumber? loaded
  let total ← paddedNumber? total
  return .bytes loaded total

/-- A status line is read from the last opening parenthesis to the first closing one behind it. -/
theorem statusSample?_eq (line : String) :
    statusSample? line =
      (Text.afterLast? '(' line.toList).bind fun opened =>
        (Text.splitFirst? ')' opened).bind fun split => groupSample? split.1 := rfl

/-- A line that can be taken apart reports what its counts amount to. -/
theorem statusSample?_of_text {line : String} {parts : ProgressLine}
    (written : parts.text = line.toList) : statusSample? line = parts.sample? := by
  rw [statusSample?_eq, ← written, parts.afterLast?_text, Option.bind_some,
    parts.splitFirst?_opened, Option.bind_some, groupSample?, parts.splitFirst?_group]
  rfl

/-- A line that reports progress can be taken apart. -/
theorem exists_progressLine {line : String} {sample : Sample}
    (reports : statusSample? line = some sample) :
    ∃ parts : ProgressLine, parts.text = line.toList := by
  rw [statusSample?_eq] at reports
  obtain ⟨opened, last, reports⟩ := Option.bind_eq_some_iff.mp reports
  obtain ⟨⟨group, behind⟩, closed, reports⟩ := Option.bind_eq_some_iff.mp reports
  obtain ⟨⟨loaded, total⟩, slash, -⟩ := Option.bind_eq_some_iff.mp reports
  obtain ⟨before, whole, no_opening⟩ := Text.afterLast?_eq_some_iff.mp last
  obtain ⟨rfl, no_closing⟩ := Text.splitFirst?_eq_some_iff.mp closed
  obtain ⟨rfl, no_slash⟩ := Text.splitFirst?_eq_some_iff.mp slash
  simp only [List.mem_append, List.mem_cons, not_or] at no_opening no_closing
  obtain ⟨⟨loaded_opening, -, total_opening⟩, -, behind_opening⟩ := no_opening
  obtain ⟨loaded_closing, -, total_closing⟩ := no_closing
  exact ⟨⟨before, loaded, total, behind, ⟨loaded_opening, loaded_closing, no_slash⟩,
    ⟨total_opening, total_closing⟩, behind_opening⟩, whole.symm⟩

namespace Text

/-- The byte at which the first occurrence of a character starts. -/
def firstByte? (c : Char) : List Char → Option Nat
  | [] => none
  | d :: rest => if d = c then some 0 else (firstByte? c rest).map (d.utf8Size + ·)

/-- The byte at which the last occurrence of a character starts. -/
def lastByte? (c : Char) : List Char → Option Nat
  | [] => none
  | d :: rest =>
    match lastByte? c rest with
    | some place => some (d.utf8Size + place)
    | none => if d = c then some 0 else none

/-- A text cut in two before a byte. There is no such cut inside a character, nor beyond the end. -/
def cutAt? (place : Nat) : List Char → Option (List Char × List Char)
  | [] => if place = 0 then some ([], []) else none
  | c :: rest =>
    if place = 0 then some ([], c :: rest)
    else if c.utf8Size ≤ place then
      (cutAt? (place - c.utf8Size) rest).map fun parts => (c :: parts.1, parts.2)
    else none

/-- The text from one byte to before another, if it can be cut at both and they are in order. -/
def slice? (start stop : Nat) (text : List Char) : Option (List Char) := do
  let (front, _) ← cutAt? stop text
  let (_, middle) ← cutAt? start front
  return middle

variable {c : Char} {text front rest : List Char}

/-- A character that does not occur starts at no byte. -/
theorem firstByte?_of_notMem (free : c ∉ text) : firstByte? c text = none := by
  induction text with
  | nil => rfl
  | cons d text ih =>
    rw [List.mem_cons, not_or] at free
    obtain ⟨other, free⟩ := free
    rw [firstByte?, if_neg (Ne.symm other), ih free]
    rfl

/-- The first occurrence starts behind the bytes of what stands before it. -/
theorem firstByte?_append (free : c ∉ front) (rest : List Char) :
    firstByte? c (front ++ c :: rest) = some (byteLength front) := by
  induction front with
  | nil => simp [firstByte?]
  | cons d front ih =>
    rw [List.mem_cons, not_or] at free
    obtain ⟨other, free⟩ := free
    rw [List.cons_append, firstByte?, if_neg (Ne.symm other), ih free]
    rfl

/-- A character that does not occur has no last occurrence. -/
theorem lastByte?_of_notMem (free : c ∉ text) : lastByte? c text = none := by
  induction text with
  | nil => rfl
  | cons d text ih =>
    rw [List.mem_cons, not_or] at free
    obtain ⟨other, free⟩ := free
    simp only [lastByte?, ih free, if_neg (Ne.symm other)]

/-- The last occurrence starts behind the bytes of what stands before it. -/
theorem lastByte?_append (front : List Char) (free : c ∉ rest) :
    lastByte? c (front ++ c :: rest) = some (byteLength front) := by
  induction front with
  | nil => simp [lastByte?, lastByte?_of_notMem free]
  | cons d front ih =>
    rw [List.cons_append, lastByte?, ih]
    rfl

/-- A text can be cut behind any of its beginnings. -/
theorem cutAt?_append (front rest : List Char) :
    cutAt? (byteLength front) (front ++ rest) = some (front, rest) := by
  induction front with
  | nil => cases rest <;> rfl
  | cons d front ih =>
    have positive := d.utf8Size_pos
    have left : d.utf8Size + byteLength front - d.utf8Size = byteLength front := by omega
    rw [List.cons_append, byteLength_cons, cutAt?, if_neg (by omega), if_pos (by omega), left, ih]
    rfl

/-- A cut leaves the text as it is and stands behind as many bytes as it says. -/
theorem eq_of_cutAt? {place : Nat} (cut : cutAt? place text = some (front, rest)) :
    text = front ++ rest ∧ byteLength front = place := by
  induction text generalizing place front with
  | nil =>
    by_cases zero : place = 0
    · rw [cutAt?, if_pos zero, Option.some.injEq, Prod.mk.injEq] at cut
      obtain ⟨rfl, rfl⟩ := cut
      exact ⟨rfl, zero.symm⟩
    · rw [cutAt?, if_neg zero] at cut
      contradiction
  | cons d text ih =>
    by_cases zero : place = 0
    · rw [cutAt?, if_pos zero, Option.some.injEq, Prod.mk.injEq] at cut
      obtain ⟨rfl, rfl⟩ := cut
      exact ⟨rfl, zero.symm⟩
    · by_cases fits : d.utf8Size ≤ place
      · rw [cutAt?, if_neg zero, if_pos fits] at cut
        obtain ⟨⟨front', rest'⟩, inner, same⟩ := Option.map_eq_some_iff.mp cut
        obtain ⟨rfl, rfl⟩ := Prod.mk.inj same
        obtain ⟨rfl, counted⟩ := ih inner
        exact ⟨rfl, by rw [byteLength_cons, counted]; omega⟩
      · rw [cutAt?, if_neg zero, if_neg fits] at cut
        contradiction

/-- A text can be sliced from behind one part of it to behind the next. -/
theorem slice?_append (front middle rest : List Char) :
    slice? (byteLength front) (byteLength front + byteLength middle) (front ++ (middle ++ rest)) =
      some middle := by
  have outer := cutAt?_append (front ++ middle) rest
  rw [byteLength_append, List.append_assoc] at outer
  simp only [slice?, outer, Option.bind_eq_bind, Option.bind_some, cutAt?_append]
  rfl

/-- A text without bytes is empty. -/
theorem eq_nil_of_byteLength (nothing : byteLength text = 0) : text = [] := by
  cases text with
  | nil => rfl
  | cons d text =>
    have positive := d.utf8Size_pos
    rw [byteLength_cons] at nothing
    omega

/-- The places between characters are those behind a beginning of the text. -/
theorem isValid_iff_exists_cut {line : String} {place : Nat} :
    String.Pos.Raw.IsValid line ⟨place⟩ ↔
      ∃ front rest, line.toList = front ++ rest ∧ byteLength front = place := by
  rw [String.Pos.Raw.isValid_iff_exists_append]
  constructor
  · rintro ⟨front, rest, rfl, same⟩
    refine ⟨front.toList, rest.toList, String.toList_append, ?_⟩
    rw [byteLength_toList]
    exact (congrArg String.Pos.Raw.byteIdx same).symm
  · rintro ⟨front, rest, split, rfl⟩
    refine ⟨.ofList front, .ofList rest, ?_, ?_⟩
    · apply String.toList_injective
      rw [split, String.toList_append, String.toList_ofList, String.toList_ofList]
    · rw [String.rawEndPos, ← byteLength_toList, String.toList_ofList]

/-- A text can be sliced if and only if both bytes start a character or end the text, and they are
in order. -/
theorem isSome_slice?_iff (line : String) (start stop : Nat) :
    (slice? start stop line.toList).isSome = true ↔
      start ≤ stop ∧ String.Pos.Raw.IsValid line ⟨start⟩ ∧ String.Pos.Raw.IsValid line ⟨stop⟩ := by
  rw [isValid_iff_exists_cut, isValid_iff_exists_cut]
  constructor
  · intro sliced
    obtain ⟨middle, found⟩ := Option.isSome_iff_exists.mp sliced
    obtain ⟨⟨outer, rest⟩, second, found⟩ := Option.bind_eq_some_iff.mp found
    obtain ⟨⟨front, middle'⟩, first, -⟩ := Option.bind_eq_some_iff.mp found
    obtain ⟨whole, counted⟩ := eq_of_cutAt? second
    obtain ⟨rfl, rfl⟩ := eq_of_cutAt? first
    refine ⟨?_, ⟨front, middle' ++ rest, ?_, rfl⟩, ⟨front ++ middle', rest, whole, counted⟩⟩
    · rw [byteLength_append] at counted
      omega
    · rw [whole, List.append_assoc]
  · rintro ⟨ordered, ⟨front, tail, left, rfl⟩, ⟨outer, rest, right, rfl⟩⟩
    have ends : ∃ middle, outer = front ++ middle := by
      obtain ⟨middle, whole, -⟩ | ⟨extra, whole, -⟩ :=
        List.append_eq_append_iff.mp (left.symm.trans right)
      · exact ⟨middle, whole⟩
      · -- The beginning that ends first has no more bytes, so the two are the same.
        have counted := byteLength_append outer extra
        have nothing : extra = [] := by
          apply eq_nil_of_byteLength
          rw [whole] at ordered
          omega
        exact ⟨[], by rw [whole, nothing]; simp⟩
    obtain ⟨middle, rfl⟩ := ends
    rw [right, List.append_assoc, byteLength_append, slice?_append]
    rfl

end Text

/-- The observation in a status line, found by its bytes. No result at all means that the line was
to be cut where it cannot be. -/
def bytewiseSample (line : List Char) : Option (Option Sample) :=
  match Text.lastByte? '(' line with
  | none => some none
  | some start => do
    let tail ← Text.slice? start (Text.byteLength line) line
    match Text.firstByte? ')' tail with
    | none => return none
    | some length => do
      let group ← Text.slice? (start + 1) (start + length) line
      return groupSample? group

/-- A line can always be cut at its parentheses, and between them stands what is read. -/
theorem bytewiseSample_eq (line : String) :
    bytewiseSample line.toList = some (statusSample? line) := by
  rw [statusSample?_eq]
  by_cases opening : '(' ∈ line.toList
  · obtain ⟨before, opened, whole, last⟩ := Text.eq_append_last_of_mem opening
    have tail : Text.slice? (Text.byteLength before) (Text.byteLength line.toList) line.toList =
        some ('(' :: opened) := by
      have sliced := Text.slice?_append before ('(' :: opened) []
      rwa [List.append_nil, ← Text.byteLength_append, ← whole] at sliced
    rw [bytewiseSample, whole, Text.lastByte?_append before last,
      Text.afterLast?_append before last, ← whole]
    simp only [tail, Option.bind_eq_bind, Option.bind_some]
    by_cases closing : ')' ∈ opened
    · obtain ⟨group, behind, rfl, first⟩ := List.eq_append_cons_of_mem closing
      have inside : ')' ∉ '(' :: group := by simpa using first
      have found := Text.firstByte?_append inside behind
      have sliced := Text.slice?_append (before ++ ['(']) group (')' :: behind)
      have places : Text.byteLength (before ++ ['(']) = Text.byteLength before + 1 :=
        Text.byteLength_append before ['(']
      rw [places, List.append_assoc, List.singleton_append, ← whole, Nat.add_assoc] at sliced
      rw [List.cons_append] at found
      rw [found, Text.splitFirst?_append first]
      simp only [Text.byteLength_cons]
      rw [show '('.utf8Size = 1 from rfl, sliced]
      rfl
    · have inside : ')' ∉ '(' :: opened := by simpa using closing
      rw [Text.firstByte?_of_notMem inside, Text.splitFirst?_of_notMem closing]
      rfl
  · rw [bytewiseSample, Text.lastByte?_of_notMem opening, Text.afterLast?_of_notMem opening]
    rfl

/-- A status line reports progress if and only if it can be taken apart around a group of two
numbers, and then it reports these. It can be taken apart in one way at most, and where it cannot,
or a count is no number, it reports nothing. Read by its bytes, with cuts that have a result only
between characters and in order, it is cut without fail and reports the same. -/
theorem status_line_grammar (line : String) :
    (∀ sample, statusSample? line = some sample ↔
      ∃ parts : ProgressLine, parts.text = line.toList ∧
        ∃ loaded total, Decimal.number? (Text.trim parts.loaded) = some loaded ∧
          Decimal.number? (Text.trim parts.total) = some total ∧ sample = .bytes loaded total) ∧
    (∀ parts other : ProgressLine, parts.text = line.toList → other.text = line.toList →
      parts = other) ∧
    (statusSample? line = none ↔
      ¬ ∃ parts : ProgressLine, parts.text = line.toList ∧
        (Decimal.number? (Text.trim parts.loaded)).isSome = true ∧
        (Decimal.number? (Text.trim parts.total)).isSome = true) ∧
    (∀ start stop, (Text.slice? start stop line.toList).isSome = true ↔
      start ≤ stop ∧ String.Pos.Raw.IsValid line ⟨start⟩ ∧ String.Pos.Raw.IsValid line ⟨stop⟩) ∧
    bytewiseSample line.toList = some (statusSample? line) := by
  have reports : ∀ sample, statusSample? line = some sample ↔
      ∃ parts : ProgressLine, parts.text = line.toList ∧
        ∃ loaded total, Decimal.number? (Text.trim parts.loaded) = some loaded ∧
          Decimal.number? (Text.trim parts.total) = some total ∧ sample = .bytes loaded total := by
    intro sample
    constructor
    · intro found
      obtain ⟨parts, written⟩ := exists_progressLine found
      rw [statusSample?_of_text written] at found
      exact ⟨parts, written, parts.sample?_eq_some_iff.mp found⟩
    · rintro ⟨parts, written, numbers⟩
      rw [statusSample?_of_text written]
      exact parts.sample?_eq_some_iff.mpr numbers
  refine ⟨reports, ?_, ?_, Text.isSome_slice?_iff line, bytewiseSample_eq line⟩
  · intro parts other written written'
    exact ProgressLine.text_injective (written.trans written'.symm)
  · rw [Option.eq_none_iff_forall_ne_some]
    simp only [ne_eq, reports, Option.isSome_iff_exists]
    constructor
    · rintro none ⟨parts, written, ⟨loaded, first⟩, ⟨total, second⟩⟩
      exact none _ ⟨parts, written, loaded, total, first, second, rfl⟩
    · rintro none sample ⟨parts, written, loaded, total, first, second, -⟩
      exact none ⟨parts, written, ⟨loaded, first⟩, ⟨total, second⟩⟩

/-- The last of three opening parentheses counts. Its group holds a blank of three bytes, and a cut
inside that blank has no result. -/
theorem status_line_grammar_last_group :
    let line := "größe… (9/9) (1(2 /\u20034) )"
    let parts : ProgressLine :=
      { before := "größe… (9/9) (1".toList, loaded := "2 ".toList, total := "\u20034".toList
        behind := " )".toList
        loaded_plain := by decide, total_plain := by decide, behind_plain := by decide }
    parts.text = line.toList ∧
      statusSample? line = some (.bytes 2.0 4.0) ∧
      (∀ other : ProgressLine, other.text = line.toList → other = parts) ∧
      String.Pos.Raw.IsValid line ⟨27⟩ ∧ Text.slice? 20 24 line.toList = none ∧
      bytewiseSample line.toList = some (some (.bytes 2.0 4.0)) := by
  intro line parts
  obtain ⟨reports, unique, -, sliced, cut⟩ := status_line_grammar line
  have written : parts.text = line.toList := by decide
  have found : statusSample? line = some (.bytes 2.0 4.0) :=
    (reports _).mpr ⟨parts, written, 2.0, 4.0, rfl, rfl, rfl⟩
  have closes : String.Pos.Raw.IsValid line ⟨27⟩ := ((sliced 20 27).mp (by decide)).2.2
  refine ⟨written, found, fun other same => unique other parts same written, closes, by decide, ?_⟩
  rw [cut, found]

end Embed
