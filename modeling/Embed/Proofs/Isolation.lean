import Embed.Response
import Embed.Proofs.StatusGrammar
import Mathlib.Data.List.Forall2
/-!
# Responses keep everything but their isolation

A response that serves a page gets two headers that isolate it, and a content type if its path has
one. `Headers.setAll` sets any headers whose names are apart, and says at once what follows for all
of them: they replace whatever had their names, in whatever case, and the others stay as they are,
so that doing it again changes nothing. The content type goes by the characters behind the last
point of the path and by nothing else.
-/

namespace Embed

namespace Text

/-- Two characters are the same, or the same letter from `A` to `Z` in different cases. -/
inductive SameLetter : Char → Char → Prop
  /-- A character is the same as itself. -/
  | same (c : Char) : SameLetter c c
  /-- The second is the lower case of the first. -/
  | lowered {upper lower : Char} (letter : 'A' ≤ upper ∧ upper ≤ 'Z')
      (code : lower.toNat = upper.toNat + 32) : SameLetter upper lower
  /-- The first is the lower case of the second. -/
  | raised {upper lower : Char} (letter : 'A' ≤ upper ∧ upper ≤ 'Z')
      (code : lower.toNat = upper.toNat + 32) : SameLetter lower upper

/-- The letters from `A` to `Z` have these codes. -/
theorem letter_iff (c : Char) : 'A' ≤ c ∧ c ≤ 'Z' ↔ 65 ≤ c.toNat ∧ c.toNat ≤ 90 := by
  rw [Char.le_def, Char.le_def, UInt32.le_iff_toNat_le, UInt32.le_iff_toNat_le]
  rfl

/-- The code of a character in lower case. -/
theorem toNat_toLower (c : Char) :
    c.toLower.toNat = if 65 ≤ c.toNat ∧ c.toNat ≤ 90 then c.toNat + 32 else c.toNat := by
  have letter : c.val ≥ 'A'.val ∧ c.val ≤ 'Z'.val ↔ 65 ≤ c.toNat ∧ c.toNat ≤ 90 := letter_iff c
  unfold Char.toLower
  by_cases upper : 65 ≤ c.toNat ∧ c.toNat ≤ 90
  · rw [dif_pos (letter.mpr upper), if_pos upper]
    change (c.val + ('a'.val - 'A'.val)).toNat = c.val.toNat + 32
    have small : c.val.toNat ≤ 90 := upper.2
    rw [UInt32.toNat_add]
    change (c.val.toNat + 32) % 4294967296 = c.val.toNat + 32
    omega
  · rw [dif_neg fun inside => upper (letter.mp inside), if_neg upper]

/-- Two characters agree in lower case if they differ in nothing but case. -/
theorem toLower_eq_iff {c d : Char} : c.toLower = d.toLower ↔ SameLetter c d := by
  rw [← Char.toNat_inj, toNat_toLower, toNat_toLower]
  constructor
  · intro same
    by_cases first : 65 ≤ c.toNat ∧ c.toNat ≤ 90 <;>
      by_cases second : 65 ≤ d.toNat ∧ d.toNat ≤ 90 <;>
      simp only [first, second, and_self, if_true, if_false] at same
    · obtain rfl := Char.toNat_inj.mp (Nat.add_right_cancel same)
      exact .same c
    · exact .lowered ((letter_iff c).mpr first) same.symm
    · exact .raised ((letter_iff d).mpr second) same
    · obtain rfl := Char.toNat_inj.mp same
      exact .same c
  · intro same
    cases same with
    | same => rfl
    | lowered letter code | raised letter code =>
      have upper := (letter_iff _).mp letter
      rw [if_pos upper, if_neg (by omega)]
      omega

/-- Texts are the same but for case if they are character by character. -/
theorem sameIgnoringCase_iff {left right : List Char} :
    sameIgnoringCase left right = true ↔ List.Forall₂ SameLetter left right := by
  have lowered : sameIgnoringCase left right = true ↔
      List.Forall₂ (· = ·) (left.map Char.toLower) (right.map Char.toLower) := by
    rw [List.forall₂_eq_eq_eq]
    exact beq_iff_eq
  rw [lowered, List.forall₂_map_left_iff, List.forall₂_map_right_iff]
  simp only [toLower_eq_iff]

end Text

/-! ## Headers -/

/-- A name is one name with itself. -/
theorem sameHeader_refl (name : String) : sameHeader name name = true :=
  beq_self_eq_true _

/-- Which of two names comes first does not matter. -/
theorem sameHeader_comm (left right : String) : sameHeader left right = sameHeader right left :=
  BEq.comm

/-- Any spelling of a name is as good as another. -/
theorem sameHeader_congr {name spelled : String} (same : sameHeader spelled name = true)
    (other : String) : sameHeader other spelled = sameHeader other name := by
  unfold sameHeader Text.sameIgnoringCase at *
  rw [beq_iff_eq.mp same]

namespace Headers

/-- Sets headers one after the other. -/
def setAll (headers fixed : Headers) : Headers :=
  fixed.foldl (fun headers header => headers.set header.1 header.2) headers

/-- No two headers have one name. -/
def Apart (fixed : Headers) : Prop :=
  fixed.Pairwise fun first second => sameHeader first.1 second.1 = false

/-- Whether none of the headers has a name. -/
def lacks (fixed : Headers) (name : String) : Bool :=
  fixed.all fun header => !sameHeader name header.1

variable {headers fixed : Headers} {name : String}

/-- The headers that were set stand behind those that had none of their names. -/
theorem setAll_eq (headers : Headers) (apart : fixed.Apart) :
    headers.setAll fixed = headers.filter (fun header => fixed.lacks header.1) ++ fixed := by
  induction fixed generalizing headers with
  | nil => simp [setAll, lacks]
  | cons first others ih =>
    obtain ⟨before, later⟩ := List.pairwise_cons.mp apart
    have kept : lacks others first.1 = true := by
      simpa [lacks] using fun header value inside => before (header, value) inside
    have whole : headers.setAll (first :: others) =
        (headers.set first.1 first.2).setAll others := rfl
    have free : ∀ header : String × String,
        (lacks others header.1 && !sameHeader header.1 first.1) =
          lacks (first :: others) header.1 := by
      intro header
      rw [Bool.and_comm]
      rfl
    rw [whole, ih _ later, Headers.set, List.filter_append, List.filter_filter, List.filter_cons,
      if_pos kept, List.filter_nil, List.append_assoc]
    simp only [free, List.singleton_append]

/-- The values of a header do not depend on how its name is spelled. -/
theorem values_congr (headers : Headers) {spelled : String}
    (same : sameHeader spelled name = true) : headers.values spelled = headers.values name := by
  unfold values
  simp only [sameHeader_congr same]

/-- Each part of a list of headers has its own values. -/
theorem values_append (first second : Headers) (name : String) :
    Headers.values (first ++ second) name = first.values name ++ second.values name := by
  simp [values]

/-- Among headers that are apart, one has its own value only. -/
theorem values_of_mem (apart : fixed.Apart) {value : String} (inside : (name, value) ∈ fixed) :
    fixed.values name = [value] := by
  induction fixed with
  | nil => contradiction
  | cons first others ih =>
    obtain ⟨before, later⟩ := List.pairwise_cons.mp apart
    rcases List.mem_cons.mp inside with rfl | further
    · have none : ∀ header ∈ others, ¬ sameHeader header.1 name = true := by
        intro header member
        rw [sameHeader_comm, before header member]
        exact Bool.false_ne_true
      rw [values, List.filter_cons, if_pos (sameHeader_refl name), List.filter_eq_nil_iff.mpr none]
      rfl
    · have other : ¬ sameHeader first.1 name = true := by
        rw [before (name, value) further]
        exact Bool.false_ne_true
      rw [values, List.filter_cons, if_neg other]
      exact ih later further

/-- Among headers that lack a name, it has no value. -/
theorem values_of_lacks (free : fixed.lacks name = true) : fixed.values name = [] := by
  have none : ∀ header ∈ fixed, ¬ sameHeader header.1 name = true := by
    intro header member
    rw [sameHeader_comm]
    simpa using List.all_eq_true.mp free header member
  rw [values, List.filter_eq_nil_iff.mpr none]
  rfl

/-- A header that was set has that value and no other. -/
theorem values_setAll_of_mem (headers : Headers) (apart : fixed.Apart) {value : String}
    (inside : (name, value) ∈ fixed) : (headers.setAll fixed).values name = [value] := by
  have replaced : Headers.values (headers.filter fun header => fixed.lacks header.1) name = [] := by
    apply values_of_lacks
    simp only [lacks, List.all_eq_true, List.mem_filter]
    rintro header ⟨-, free⟩
    rw [sameHeader_comm]
    exact free (name, value) inside
  rw [setAll_eq headers apart, values_append, replaced, values_of_mem apart inside]
  rfl

/-- What was not set has the values that it had. -/
theorem values_setAll_of_lacks (headers : Headers) (apart : fixed.Apart)
    (free : fixed.lacks name = true) :
    (headers.setAll fixed).values name = headers.values name := by
  have kept : Headers.values (headers.filter fun header => fixed.lacks header.1) name =
      headers.values name := by
    unfold values
    rw [List.filter_filter]
    congr 1
    apply List.filter_congr
    intro header _
    -- A header of this name is lacked under the name that it has itself.
    cases same : sameHeader header.1 name with
    | false => rfl
    | true =>
      simp only [lacks, sameHeader_comm header.1, sameHeader_congr same, Bool.true_and]
      simp only [sameHeader_comm _ name]
      exact free
  rw [setAll_eq headers apart, values_append, kept, values_of_lacks free, List.append_nil]

/-- Headers that have been set can be set again, to no effect. -/
theorem setAll_setAll (headers : Headers) (apart : fixed.Apart) :
    (headers.setAll fixed).setAll fixed = headers.setAll fixed := by
  have replaced : List.filter (fun header => fixed.lacks header.1) fixed = [] := by
    rw [List.filter_eq_nil_iff]
    intro header member free
    have apartFromItself := List.all_eq_true.mp free header member
    rw [sameHeader_refl] at apartFromItself
    contradiction
  rw [setAll_eq _ apart, setAll_eq headers apart, List.filter_append, List.filter_filter, replaced,
    List.append_nil]
  simp only [Bool.and_self]

end Headers

/-! ## Content types -/

/-- The content type of an extension. -/
def extensionType? (extension : List Char) : Option String :=
  (contentTypes.find? fun entry => Text.sameIgnoringCase entry.1.toList extension).map (·.2)

/-- The content type of a path is that of what stands behind its last point. -/
theorem contentType?_eq (path : String) :
    contentType? path = (Text.afterLast? '.' path.toList).bind extensionType? := by
  unfold contentType? extensionType?
  cases Text.afterLast? '.' path.toList with
  | none => rfl
  | some extension =>
    change ((contentTypes.find? _).bind _) = Option.map _ (contentTypes.find? _)
    cases contentTypes.find? fun entry => Text.sameIgnoringCase entry.1.toList extension <;> rfl

/-- No extension is in the table twice. -/
theorem contentTypes_apart : ∀ first ∈ contentTypes, ∀ second ∈ contentTypes,
    Text.sameIgnoringCase first.1.toList second.1.toList = true → first = second := by
  decide

/-- No extension in the table has a slash. -/
theorem contentTypes_slashless : ∀ entry ∈ contentTypes,
    '/' ∉ entry.1.toList.map Char.toLower := by
  decide

/-- An extension has the content type of the table's entry that is the same but for case. -/
theorem extensionType?_eq_some_iff {extension : List Char} {type : String} :
    extensionType? extension = some type ↔
      ∃ known, (known, type) ∈ contentTypes ∧
        Text.sameIgnoringCase known.toList extension = true := by
  unfold extensionType?
  rw [Option.map_eq_some_iff]
  constructor
  · rintro ⟨entry, found, rfl⟩
    have same := List.find?_some found
    exact ⟨entry.1, List.mem_of_find?_eq_some found, same⟩
  · rintro ⟨known, inside, same⟩
    cases found : contentTypes.find? fun entry =>
        Text.sameIgnoringCase entry.1.toList extension with
    | none => exact absurd same (List.find?_eq_none.mp found (known, type) inside)
    | some entry =>
      have first := List.find?_some found
      have twice : Text.sameIgnoringCase entry.1.toList known.toList = true := by
        unfold Text.sameIgnoringCase at *
        rw [beq_iff_eq.mp first, beq_iff_eq.mp same]
        exact beq_self_eq_true _
      obtain rfl := contentTypes_apart entry (List.mem_of_find?_eq_some found) _ inside twice
      exact ⟨_, rfl, rfl⟩

/-- A path has a content type if what stands behind its last point is in the table, in whatever
case. -/
theorem contentType?_eq_some_iff {path type : String} :
    contentType? path = some type ↔
      ∃ front extension known, path.toList = front ++ '.' :: extension ∧ '.' ∉ extension ∧
        (known, type) ∈ contentTypes ∧ List.Forall₂ Text.SameLetter known.toList extension := by
  rw [contentType?_eq, Option.bind_eq_some_iff]
  simp only [Text.afterLast?_eq_some_iff, extensionType?_eq_some_iff, Text.sameIgnoringCase_iff]
  constructor
  · rintro ⟨extension, ⟨front, split, free⟩, known, inside, same⟩
    exact ⟨front, extension, known, split, free, inside, same⟩
  · rintro ⟨front, extension, known, split, free, inside, same⟩
    exact ⟨extension, ⟨front, split, free⟩, known, inside, same⟩

/-- What stands before the last point does not matter. -/
theorem contentType?_of_split (front : String) {extension : String} (free : '.' ∉ extension.toList) :
    contentType? (front ++ "." ++ extension) = extensionType? extension.toList := by
  have split : (front ++ "." ++ extension).toList = front.toList ++ '.' :: extension.toList := by
    simp
  rw [contentType?_eq, split, Text.afterLast?_append _ free]
  rfl

/-- What has a slash in it has no content type. -/
theorem extensionType?_of_slash {extension : List Char} (slash : '/' ∈ extension) :
    extensionType? extension = none := by
  rw [Option.eq_none_iff_forall_ne_some]
  intro type found
  obtain ⟨known, inside, same⟩ := extensionType?_eq_some_iff.mp found
  apply contentTypes_slashless _ inside
  rw [beq_iff_eq.mp same]
  exact List.mem_map_of_mem (f := Char.toLower) slash

/-! ## Responses -/

/-- The headers that isolate the response to a request for a path and give it its content type. -/
def isolation (path : String) : Headers :=
  [("cross-origin-opener-policy", "same-origin"),
    ("cross-origin-embedder-policy", "require-corp")] ++
    (contentType? path).toList.map (Prod.mk "content-type")

/-- These headers have different names. -/
theorem apart_isolation (path : String) : (isolation path).Apart := by
  have policies : sameHeader "cross-origin-opener-policy" "cross-origin-embedder-policy" = false := by
    decide
  have opener : sameHeader "cross-origin-opener-policy" "content-type" = false := by decide
  have embedder : sameHeader "cross-origin-embedder-policy" "content-type" = false := by decide
  unfold isolation
  cases contentType? path <;> simp [Headers.Apart, policies, opener, embedder]

/-- They are what a response is given. -/
theorem headers_isolate (response : Response) (path : String) :
    (response.isolate path).headers = response.headers.setAll (isolation path) := by
  unfold Response.isolate isolation
  cases contentType? path <;> rfl

/-- A response to a request for a path keeps its status. Each of the two policies has one value
under every spelling of its name, and so has the content type if the path has one, or else it is
what it was. Every other header has the values that it had, as often as it had them. A response that
was isolated is not changed by it again. The content type of a path is that of the entry in the
table which is the same, but for case, as what stands behind the last point. So nothing before that
point matters, and with a slash behind it there is none. -/
theorem isolation_touches_nothing_else (response : Response) (path : String) :
    let result := response.isolate path
    let opener := "Cross-Origin-Opener-Policy"
    let embedder := "Cross-Origin-Embedder-Policy"
    let content := "Content-Type"
    result.status = response.status ∧
    (∀ name, sameHeader name opener = true → result.headers.values name = ["same-origin"]) ∧
    (∀ name, sameHeader name embedder = true → result.headers.values name = ["require-corp"]) ∧
    (∀ name, sameHeader name content = true →
      (∀ type, contentType? path = some type → result.headers.values name = [type]) ∧
      (contentType? path = none → result.headers.values name = response.headers.values name)) ∧
    (∀ name, sameHeader name opener = false → sameHeader name embedder = false →
      sameHeader name content = false →
      result.headers.values name = response.headers.values name) ∧
    result.isolate path = result ∧
    (∀ type, contentType? path = some type ↔
      ∃ front extension known, path.toList = front ++ '.' :: extension ∧ '.' ∉ extension ∧
        (known, type) ∈ contentTypes ∧ List.Forall₂ Text.SameLetter known.toList extension) ∧
    (∀ front front' extension, '.' ∉ extension.toList →
      contentType? (front ++ "." ++ extension) = contentType? (front' ++ "." ++ extension)) ∧
    (∀ front extension, '.' ∉ extension.toList → '/' ∈ extension.toList →
      contentType? (front ++ "." ++ extension) = none) := by
  intro result opener embedder content
  have apart := apart_isolation path
  have headers : result.headers = response.headers.setAll (isolation path) :=
    headers_isolate response path
  have lowerOpener : ∀ name, sameHeader name opener =
      sameHeader name "cross-origin-opener-policy" := sameHeader_congr (by decide)
  have lowerEmbedder : ∀ name, sameHeader name embedder =
      sameHeader name "cross-origin-embedder-policy" := sameHeader_congr (by decide)
  have lowerContent : ∀ name, sameHeader name content = sameHeader name "content-type" :=
    sameHeader_congr (by decide)
  refine ⟨rfl, ?_, ?_, ?_, ?_, ?_, fun type => contentType?_eq_some_iff, ?_, ?_⟩
  · intro name same
    rw [headers, Headers.values_congr _ (lowerOpener name ▸ same)]
    exact Headers.values_setAll_of_mem _ apart (by simp [isolation])
  · intro name same
    rw [headers, Headers.values_congr _ (lowerEmbedder name ▸ same)]
    exact Headers.values_setAll_of_mem _ apart (by simp [isolation])
  · intro name same
    rw [headers, Headers.values_congr _ (lowerContent name ▸ same),
      Headers.values_congr response.headers (lowerContent name ▸ same)]
    refine ⟨fun type found => ?_, fun absent => ?_⟩
    · exact Headers.values_setAll_of_mem _ apart (by simp [isolation, found])
    · apply Headers.values_setAll_of_lacks _ apart
      rw [isolation, absent]
      decide
  · intro name notOpener notEmbedder notContent
    rw [lowerOpener] at notOpener
    rw [lowerEmbedder] at notEmbedder
    rw [lowerContent] at notContent
    rw [headers]
    apply Headers.values_setAll_of_lacks _ apart
    unfold isolation
    cases contentType? path <;> simp [Headers.lacks, notOpener, notEmbedder, notContent]
  · have again : (result.isolate path).headers = result.headers := by
      rw [headers_isolate, headers, Headers.setAll_setAll _ apart]
    exact congrArg (Response.mk response.status) again
  · intro front front' extension free
    rw [contentType?_of_split front free, contentType?_of_split front' free]
  · intro front extension free slash
    rw [contentType?_of_split front free, extensionType?_of_slash slash]

/-- A response with repeated headers, some of which are replaced, for a path with points in its
directories and an extension in mixed case. -/
theorem isolation_touches_nothing_else_repeated :
    let response : Response :=
      { status := 404
        headers :=
          [("CONTENT-TYPE", "text/plain"), ("vary", "origin"), ("Content-Type", "text/html"),
            ("Vary", "origin"), ("cross-origin-opener-policy", "unsafe-none")] }
    let path := "/v1.2/module.WaSm"
    let result := response.isolate path
    contentType? path = some "application/wasm" ∧
      result.headers.values "content-TYPE" = ["application/wasm"] ∧
      result.headers.values "Cross-Origin-Opener-Policy" = ["same-origin"] ∧
      result.headers.values "VARY" = ["origin", "origin"] ∧
      result.isolate path = result ∧
      contentType? "/v1.2/module" = none := by
  intro response path result
  obtain ⟨-, opener, -, content, others, again, -, -, slash⟩ :=
    isolation_touches_nothing_else response path
  have typed : contentType? path = some "application/wasm" := by decide
  refine ⟨typed, (content _ (by decide)).1 _ typed, opener _ (by decide), ?_, again, ?_⟩
  · exact others _ (by decide) (by decide) (by decide)
  · exact slash "/v1" "2/module" (by decide) (by decide)

end Embed
