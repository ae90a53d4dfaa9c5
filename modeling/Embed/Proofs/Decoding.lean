import Embed.Message.Decoder
import Embed.Proofs.ReadBack
/-!
# What a structured payload is decoded to

Every record falls under exactly one of a few conditions, and each condition has one result. The
conditions speak of single members: the one that names the kind, and those that the kind demands.
Nothing else of a record is looked at, so nothing else can change what becomes of it.
-/

namespace Embed

/-- What a record has under a name. Only objects have anything. -/
def Json.Value.member? (name : String) : Json.Value → Option Json.Value
  | .object fields => fields.lookup name
  | _ => none

/-- A record has a number of pixels under a name: an integer from one to the largest of 32 bits. -/
def HasPixels (v : Json.Value) (name : String) (pixels : UInt32) : Prop :=
  ∃ i, v.member? name = some (.number (.integer i)) ∧ 1 ≤ i.val ∧ i.val ≤ 0xFFFFFFFF ∧
    i.val = pixels.toNat

/-- A record has the member that a `log` record demands. -/
def HasLine (v : Json.Value) (line : String) : Prop :=
  v.member? "val" = some (.string line)

/-- A record has the members that a `resize` record demands. -/
def HasSize (v : Json.Value) (size : Size) : Prop :=
  HasPixels v "w" size.width ∧ HasPixels v "h" size.height

/-- A record lacks what its kind demands. -/
inductive Lacks (v : Json.Value) : String → Prop
  /-- It has no line. -/
  | line : (∀ line, ¬ HasLine v line) → Lacks v "log"
  /-- It has no size. -/
  | size : (∀ size, ¬ HasSize v size) → Lacks v "resize"

/-- The conditions that a record can fall under, each with its result. -/
inductive Classified (v : Json.Value) : Except DecodeError Message → Prop
  /-- It is no object. -/
  | notAnObject : (∀ fields, v ≠ .object fields) → Classified v (.error .notAnObject)
  /-- It is an object, but no string names its kind. -/
  | missingKind : (∃ fields, v = .object fields) →
      (∀ kind, v.member? "msg" ≠ some (.string kind)) → Classified v (.error .missingKind)
  /-- It is a line. -/
  | log (line : String) : v.member? "msg" = some (.string "log") → HasLine v line →
      Classified v (.ok (.log line))
  /-- It is a size. -/
  | resize (size : Size) : v.member? "msg" = some (.string "resize") → HasSize v size →
      Classified v (.ok (.resize size))
  /-- It would be a line or a size if it had one. -/
  | invalidField (kind reason : String) : v.member? "msg" = some (.string kind) → Lacks v kind →
      Classified v (.error (.invalidField kind reason))
  /-- It is of another kind. -/
  | unknown (kind : String) : v.member? "msg" = some (.string kind) → kind ≠ "log" →
      kind ≠ "resize" → Classified v (.ok (.unknown kind))

/-- Text is read from a string alone. -/
theorem asText_eq_ok {v : Json.Value} {line : String} :
    asText v = .ok line ↔ v = .string line := by
  cases v <;> simp [asText]

/-- Pixels are read from an integer in their range alone. -/
theorem asPixels_eq_ok {v : Json.Value} {pixels : UInt32} :
    asPixels v = .ok pixels ↔ ∃ i, v = .number (.integer i) ∧ 1 ≤ i.val ∧ i.val ≤ 0xFFFFFFFF ∧
      i.val = pixels.toNat := by
  constructor
  · intro read
    unfold asPixels at read
    split at read
    · rename_i i
      split at read
      · rename_i range
        obtain rfl := Except.ok.inj read
        have small : i.val.toNat < UInt32.size := by
          have : UInt32.size = 0x100000000 := rfl
          omega
        refine ⟨i, rfl, by omega, by omega, ?_⟩
        rw [UInt32.toNat_ofNat_of_lt' small]
        omega
      · contradiction
    · contradiction
  · rintro ⟨i, rfl, least, most, same⟩
    have range : 0 < i.val ∧ i.val < 0x100000000 := by omega
    rw [asPixels, if_pos range, same, Int.toNat_natCast, UInt32.ofNat_toNat]

/-- A member is read where it is there and can be read. -/
theorem Fields.read?_eq_some {α : Type} {fields : Fields} {name : String}
    {reading : Json.Value → Except Json.Mismatch α} {a : α} :
    fields.read? name reading = .ok (some a) ↔
      ∃ v, fields.lookup name = some v ∧ reading v = .ok a := by
  unfold read?
  cases fields.lookup name with
  | none => simp
  | some v => cases read : reading v <;> simp [Except.map, read]

/-- A number of pixels is there if it can be read. -/
theorem hasPixels_iff {fields : Fields} {name : String} {pixels : UInt32} :
    HasPixels (.object fields) name pixels ↔
      fields.read? name asPixels = .ok (some pixels) := by
  simp only [Fields.read?_eq_some, asPixels_eq_ok]
  constructor
  · rintro ⟨i, found, range⟩
    exact ⟨_, found, i, rfl, range⟩
  · rintro ⟨_, found, i, rfl, range⟩
    exact ⟨i, found, range⟩

/-- The line of a record is its text under `val`. -/
theorem logLine_eq_ok {fields : Fields} {line : String} :
    logLine fields = .ok line ↔ HasLine (.object fields) line := by
  have there : HasLine (.object fields) line ↔
      fields.read? "val" asText = .ok (some line) := by
    simp [HasLine, Json.Value.member?, Fields.read?_eq_some, asText_eq_ok]
  rw [there, logLine]
  cases fields.read? "val" asText with
  | error mismatch => simp [bind, Except.bind]
  | ok found => cases found <;> simp [bind, Except.bind, demand]

/-- The size of a record is made of its pixels under `w` and `h`. -/
theorem resizeSize_eq_ok {fields : Fields} {size : Size} :
    resizeSize fields = .ok size ↔ HasSize (.object fields) size := by
  obtain ⟨width, height⟩ := size
  rw [HasSize, hasPixels_iff, hasPixels_iff, resizeSize]
  cases fields.read? "h" asPixels with
  | error mismatch => simp [bind, Except.bind]
  | ok high =>
    cases fields.read? "w" asPixels with
    | error mismatch => simp [bind, Except.bind]
    | ok wide =>
      cases wide <;> cases high <;> simp [bind, Except.bind, pure, Except.pure, demand]

/-- What is no object is refused as such. -/
theorem decodeValue_other {v : Json.Value} (other : ∀ fields, v ≠ .object fields) :
    decodeValue v = .error .notAnObject := by
  cases v with
  | object fields => exact absurd rfl (other fields)
  | _ => rfl

/-- An object whose kind no string names is refused as such. -/
theorem decodeValue_unnamed {fields : Fields}
    (unnamed : ∀ kind, fields.lookup "msg" ≠ some (.string kind)) :
    decodeValue (.object fields) = .error .missingKind := by
  rw [decodeValue]
  split
  · rename_i kind named
    exact absurd named (unnamed kind)
  · rfl

/-- A record whose kind is named is decoded as one of that kind. -/
theorem decodeValue_named {v : Json.Value} {kind : String}
    (named : v.member? "msg" = some (.string kind)) :
    ∃ fields, v = .object fields ∧ decodeValue v = decodeKind kind fields := by
  cases v with
  | object fields =>
    have found : fields.lookup "msg" = some (.string kind) := named
    exact ⟨fields, rfl, by rw [decodeValue, found]⟩
  | _ => contradiction

/-- A record of kind `log` is its line. -/
theorem decodeValue_log {v : Json.Value} {line : String}
    (named : v.member? "msg" = some (.string "log")) (has : HasLine v line) :
    decodeValue v = .ok (.log line) := by
  obtain ⟨fields, rfl, decoded⟩ := decodeValue_named named
  rw [decoded, decodeKind, if_pos rfl, logLine_eq_ok.mpr has]
  rfl

/-- A record of kind `resize` is its size. -/
theorem decodeValue_resize {v : Json.Value} {size : Size}
    (named : v.member? "msg" = some (.string "resize")) (has : HasSize v size) :
    decodeValue v = .ok (.resize size) := by
  obtain ⟨fields, rfl, decoded⟩ := decodeValue_named named
  rw [decoded, decodeKind, if_neg (by decide), if_pos rfl, resizeSize_eq_ok.mpr has]
  rfl

/-- A record that lacks what its kind demands is refused for that kind. -/
theorem decodeValue_lacking {v : Json.Value} {kind : String}
    (named : v.member? "msg" = some (.string kind)) (lacks : Lacks v kind) :
    ∃ reason, decodeValue v = .error (.invalidField kind reason) := by
  obtain ⟨fields, rfl, decoded⟩ := decodeValue_named named
  rw [decoded, decodeKind]
  cases lacks with
  | line none =>
    rw [if_pos rfl]
    cases read : logLine fields with
    | error mismatch => exact ⟨mismatch.message, rfl⟩
    | ok line => exact absurd (logLine_eq_ok.mp read) (none line)
  | size none =>
    rw [if_neg (by decide), if_pos rfl]
    cases read : resizeSize fields with
    | error mismatch => exact ⟨mismatch.message, rfl⟩
    | ok size => exact absurd (resizeSize_eq_ok.mp read) (none size)

/-- A record of another kind is passed on by its kind. -/
theorem decodeValue_unknown {v : Json.Value} {kind : String}
    (named : v.member? "msg" = some (.string kind)) (notLog : kind ≠ "log")
    (notResize : kind ≠ "resize") : decodeValue v = .ok (.unknown kind) := by
  obtain ⟨fields, rfl, decoded⟩ := decodeValue_named named
  rw [decoded, decodeKind, if_neg notLog, if_neg notResize]

/-- A record whose kind is named falls under one of the conditions. -/
theorem classified_named {v : Json.Value} {kind : String}
    (named : v.member? "msg" = some (.string kind)) : Classified v (decodeValue v) := by
  -- Both kinds that demand members fail alike, so what follows from a lack is said once.
  have lacking : Lacks v kind → Classified v (decodeValue v) := by
    intro lacks
    obtain ⟨reason, decoded⟩ := decodeValue_lacking named lacks
    rw [decoded]
    exact .invalidField kind reason named lacks
  by_cases isLog : kind = "log"
  · subst isLog
    by_cases has : ∃ line, HasLine v line
    · obtain ⟨line, has⟩ := has
      rw [decodeValue_log named has]
      exact .log line named has
    · exact lacking (.line (not_exists.mp has))
  by_cases isResize : kind = "resize"
  · subst isResize
    by_cases has : ∃ size, HasSize v size
    · obtain ⟨size, has⟩ := has
      rw [decodeValue_resize named has]
      exact .resize size named has
    · exact lacking (.size (not_exists.mp has))
  rw [decodeValue_unknown named isLog isResize]
  exact .unknown kind named isLog isResize

/-- Every value falls under the condition that has what it is decoded to as its result. -/
theorem classified {v : Json.Value} {result : Except DecodeError Message}
    (decoded : decodeValue v = result) : Classified v result := by
  subst decoded
  by_cases isObject : ∃ fields, v = .object fields
  · obtain ⟨fields, rfl⟩ := isObject
    by_cases named : ∃ kind, fields.lookup "msg" = some (.string kind)
    · exact classified_named named.choose_spec
    · have unnamed := not_exists.mp named
      rw [decodeValue_unnamed unnamed]
      exact .missingKind ⟨fields, rfl⟩ unnamed
  · have other := not_exists.mp isObject
    rw [decodeValue_other other]
    exact .notAnObject other

/-- What is refused as no object is none. -/
theorem decodeValue_notAnObject_iff {v : Json.Value} :
    decodeValue v = .error .notAnObject ↔ ∀ fields, v ≠ .object fields := by
  constructor
  · intro decoded
    cases classified decoded with
    | notAnObject other => exact other
  · exact decodeValue_other

/-- What is refused for its kind is an object without one. -/
theorem decodeValue_missingKind_iff {v : Json.Value} :
    decodeValue v = .error .missingKind ↔
      (∃ fields, v = .object fields) ∧ ∀ kind, v.member? "msg" ≠ some (.string kind) := by
  constructor
  · intro decoded
    cases classified decoded with
    | missingKind isObject unnamed => exact ⟨isObject, unnamed⟩
  · rintro ⟨⟨fields, rfl⟩, unnamed⟩
    exact decodeValue_unnamed unnamed

/-- What is a line is a record of kind `log` that has this line. -/
theorem decodeValue_log_iff {v : Json.Value} {line : String} :
    decodeValue v = .ok (.log line) ↔
      v.member? "msg" = some (.string "log") ∧ HasLine v line := by
  constructor
  · intro decoded
    cases classified decoded with
    | log _ named has => exact ⟨named, has⟩
  · rintro ⟨named, has⟩
    exact decodeValue_log named has

/-- What is a size is a record of kind `resize` that has this size. -/
theorem decodeValue_resize_iff {v : Json.Value} {size : Size} :
    decodeValue v = .ok (.resize size) ↔
      v.member? "msg" = some (.string "resize") ∧ HasSize v size := by
  constructor
  · intro decoded
    cases classified decoded with
    | resize _ named has => exact ⟨named, has⟩
  · rintro ⟨named, has⟩
    exact decodeValue_resize named has

/-- What is refused for a field lacks what its kind demands. -/
theorem decodeValue_invalidField_iff {v : Json.Value} {kind : String} :
    (∃ reason, decodeValue v = .error (.invalidField kind reason)) ↔
      v.member? "msg" = some (.string kind) ∧ Lacks v kind := by
  constructor
  · rintro ⟨reason, decoded⟩
    cases classified decoded with
    | invalidField _ _ named lacks => exact ⟨named, lacks⟩
  · rintro ⟨named, lacks⟩
    exact decodeValue_lacking named lacks

/-- What is passed on by its kind is a record of a kind that demands nothing. -/
theorem decodeValue_unknown_iff {v : Json.Value} {kind : String} :
    decodeValue v = .ok (.unknown kind) ↔
      v.member? "msg" = some (.string kind) ∧ kind ≠ "log" ∧ kind ≠ "resize" := by
  constructor
  · intro decoded
    cases classified decoded with
    | unknown _ named notLog notResize => exact ⟨named, notLog, notResize⟩
  · rintro ⟨named, notLog, notResize⟩
    exact decodeValue_unknown named notLog notResize

/-- The members that a kind demands. -/
def demanded (kind : String) : List String :=
  if kind = "log" then ["val"] else if kind = "resize" then ["w", "h"] else []

/-- Of the members of a record only those that its kind demands are read. -/
theorem decodeKind_congr {kind : String} {fields others : Fields}
    (same : ∀ name ∈ demanded kind, others.lookup name = fields.lookup name) :
    decodeKind kind others = decodeKind kind fields := by
  unfold demanded at same
  unfold decodeKind
  split
  · rename_i isLog
    have val := same "val" (by simp [isLog])
    simp only [logLine, Fields.read?, val]
  · rename_i notLog
    split
    · rename_i isResize
      have w := same "w" (by simp [isResize])
      have h := same "h" (by simp [isResize])
      simp only [resizeSize, Fields.read?, w, h]
    · rfl

/-- A record with the same kind and the same members that this kind demands is decoded alike. -/
theorem decodeValue_congr {v other : Json.Value} {kind : String}
    (named : v.member? "msg" = some (.string kind))
    (same : ∀ name ∈ "msg" :: demanded kind, other.member? name = v.member? name) :
    decodeValue other = decodeValue v := by
  have named' : other.member? "msg" = some (.string kind) :=
    (same "msg" List.mem_cons_self).trans named
  obtain ⟨fields, rfl, decoded⟩ := decodeValue_named named
  obtain ⟨fields', rfl, decoded'⟩ := decodeValue_named named'
  rw [decoded, decoded']
  exact decodeKind_congr fun name inside => same name (List.mem_cons_of_mem _ inside)

/-- A text that denotes a value is decoded as that value. -/
theorem decode_parsed {payload : String} {v : Json.Value} (parsed : Json.parse payload = .ok v) :
    decode .structured payload = decodeValue v := by
  rw [decode, decodeStructured, parsed]

/-- A text is malformed where it denotes no value, and nowhere else. -/
theorem decode_malformed_iff {payload : String} :
    (∃ reason, decode .structured payload = .error (.malformed reason)) ↔
      ∃ fault, Json.parse payload = .error fault := by
  constructor
  · rintro ⟨reason, decoded⟩
    cases parsed : Json.parse payload with
    | error fault => exact ⟨fault, rfl⟩
    | ok v =>
      -- No condition on a value has this result.
      rw [decode_parsed parsed] at decoded
      cases classified decoded
  · rintro ⟨fault, parsed⟩
    exact ⟨fault.message, by rw [decode, decodeStructured, parsed]⟩

/-- Every record is classified exactly: each result comes with one condition on the members that
are demanded, no other member plays a part, and a text that is no JSON is all that is malformed. Of
members that a text writes more than once the last one counts. -/
theorem decoding_classifies_exactly (v : Json.Value) (payload : String) :
    (decodeValue v = .error .notAnObject ↔ ∀ fields, v ≠ .object fields) ∧
    (decodeValue v = .error .missingKind ↔
      (∃ fields, v = .object fields) ∧ ∀ kind, v.member? "msg" ≠ some (.string kind)) ∧
    (∀ line, decodeValue v = .ok (.log line) ↔
      v.member? "msg" = some (.string "log") ∧ HasLine v line) ∧
    (∀ size, decodeValue v = .ok (.resize size) ↔
      v.member? "msg" = some (.string "resize") ∧ HasSize v size) ∧
    (∀ kind, (∃ reason, decodeValue v = .error (.invalidField kind reason)) ↔
      v.member? "msg" = some (.string kind) ∧ Lacks v kind) ∧
    (∀ kind, decodeValue v = .ok (.unknown kind) ↔
      v.member? "msg" = some (.string kind) ∧ kind ≠ "log" ∧ kind ≠ "resize") ∧
    (∀ kind other, v.member? "msg" = some (.string kind) →
      (∀ name ∈ "msg" :: demanded kind, other.member? name = v.member? name) →
      decodeValue other = decodeValue v) ∧
    ((∃ reason, decode .structured payload = .error (.malformed reason)) ↔
      ∃ fault, Json.parse payload = .error fault) ∧
    (∀ found, Json.parse payload = .ok found → decode .structured payload = decodeValue found) ∧
    (∀ fields, Json.parse payload = .ok (.object fields) →
      ∃ written, (∀ value, Json.Written payload value ↔ value = .object written) ∧
        ∀ name, fields.lookup name = (written.reverse.lookup name).map Json.Value.tidy) := by
  refine ⟨decodeValue_notAnObject_iff, decodeValue_missingKind_iff, fun line => decodeValue_log_iff,
    fun size => decodeValue_resize_iff, fun kind => decodeValue_invalidField_iff,
    fun kind => decodeValue_unknown_iff, fun kind other => decodeValue_congr,
    decode_malformed_iff, fun found => decode_parsed, fun fields => Json.lookup_of_parse⟩

/-- A size at both ends of its range, with a member that is not demanded; and a text with a member
written twice. -/
theorem decoding_classifies_exactly_repeated :
    let one := Json.Value.number (.integer ⟨1, by decide, by decide⟩)
    let most := Json.Value.number (.integer ⟨0xFFFFFFFF, by decide, by decide⟩)
    let v : Json.Value := .object [("h", most), ("msg", .string "resize"), ("w", one)]
    let other : Json.Value :=
      .object [("h", most), ("msg", .string "resize"), ("val", .null), ("w", one)]
    let written := [("msg", .string "log"), ("val", one), ("val", .string "on")]
    let payload := (Json.Value.object written).render
    v.member? "msg" = some (.string "resize") ∧
      (∀ name ∈ "msg" :: demanded "resize", other.member? name = v.member? name) ∧
      decodeValue other = .ok (.resize ⟨1, 0xFFFFFFFF⟩) ∧
      payload = "\x7b\"msg\":\"log\",\"val\":1,\"val\":\"on\"\x7d" ∧
      Json.parse payload = .ok (.object [("msg", .string "log"), ("val", .string "on")]) ∧
      decode .structured payload = .ok (.log "on") := by
  intro one most v other written payload
  have plain : Json.Plain Json.maxDepth (.object written) := by
    refine .object fun member inside => ?_
    simp only [written, List.mem_cons, List.not_mem_nil, or_false] at inside
    rcases inside with rfl | rfl | rfl
    · exact .string _
    · exact .integer _
    · exact .string _
  have parsed : Json.parse payload =
      .ok (.object [("msg", .string "log"), ("val", .string "on")]) := by
    have first : Json.gather [("msg", .string "log"), ("val", one)] =
        [("msg", .string "log"), ("val", one)] :=
      Json.gather_of_ascending (Json.ascending_pair (by decide) _ _)
    have last : Json.gather written = [("msg", .string "log"), ("val", .string "on")] := by
      rw [show written = [("msg", .string "log"), ("val", one)] ++ [("val", .string "on")] from rfl,
        Json.gather_concat, first, Json.insertMember, if_neg (by decide), if_neg (by decide),
        Json.insertMember, if_neg (by decide), if_pos rfl]
    rw [← last]
    exact Json.parse_render plain
  have same : ∀ name ∈ "msg" :: demanded "resize", other.member? name = v.member? name := by
    intro name inside
    simp only [demanded, String.reduceEq, if_false, if_true, List.mem_cons, List.not_mem_nil,
      or_false] at inside
    rcases inside with rfl | rfl | rfl <;> rfl
  obtain ⟨-, -, -, resize, -, -, alike, -, denoted, -⟩ := decoding_classifies_exactly v payload
  obtain ⟨-, -, log, -⟩ :=
    decoding_classifies_exactly (.object [("msg", .string "log"), ("val", .string "on")]) payload
  refine ⟨rfl, same, ?_, by decide +kernel, parsed, ?_⟩
  · rw [alike "resize" other rfl same]
    have width : HasPixels v "w" 1 := ⟨_, rfl, by decide, by decide, rfl⟩
    have height : HasPixels v "h" 0xFFFFFFFF := ⟨_, rfl, by decide, by decide, rfl⟩
    exact (resize _).mpr ⟨rfl, width, height⟩
  · rw [denoted _ parsed]
    exact (log "on").mpr ⟨rfl, rfl⟩

end Embed
