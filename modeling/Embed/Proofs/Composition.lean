import Embed.Config.Parser
import Embed.Proofs.Meaning
import Embed.Proofs.ReadBack
import Mathlib.Data.List.Forall2
import Mathlib.Data.List.TakeWhile
/-!
# Configurations compose member by member

A configuration is read in one pass, but each member of its object only sets the field that it
names. So an object of members is a configuration if and only if no key is there twice and each
member makes one alone, and the configuration has what each member gave it. The element ids are a
record of the same kind inside it. `Record` holds what the two have in common: the fields, how a
setting is made, and what a record has under a name. A record is known by that, which is why the
order of the members is lost.
-/

namespace Embed

open Json (Value KnownField Means Written field? settingsOf? gatherSettings?)

/-- A record that is made of settings, each of one field. -/
structure Record (σ ρ : Type) where
  /-- The fields. -/
  fields : List (KnownField σ)
  /-- The record before anything is set. -/
  start : ρ
  /-- The record with one setting made. -/
  set : ρ → σ → ρ
  /-- The name of the field that a setting is of. -/
  key : σ → String
  /-- What a record has under a name. -/
  get? : ρ → String → Option σ
  /-- A field makes settings of itself. -/
  keyed : ∀ field ∈ fields, ∀ {value : Value} {setting : σ},
    field.meaning value = some setting → key setting = field.name
  /-- A setting changes what is found under its own name and nothing else. -/
  get?_set : ∀ (record : ρ) (setting : σ) (name : String),
    get? (set record setting) name = if name = key setting then some setting else get? record name
  /-- A record is known by what is found under each name. -/
  ext : ∀ {record other : ρ}, (∀ name, get? record name = get? other name) → record = other

namespace Record

variable {σ ρ : Type} (record : Record σ ρ)

/-- The record that settings make. -/
def ofSettings (settings : List σ) : ρ :=
  settings.foldl record.set record.start

/-- The record that a value makes. -/
def ofValue? (v : Value) : Option ρ :=
  (settingsOf? record.fields v).map fun settings => record.ofSettings (settings.map (·.2))

/-- The setting that one member makes. -/
def setting? (member : String × Value) : Option σ :=
  (field? record.fields member.1).bind fun field => field.meaning member.2

/-- A member makes a setting of the field that it names. -/
theorem key_of_setting? {member : String × Value} {setting : σ}
    (made : record.setting? member = some setting) : record.key setting = member.1 := by
  obtain ⟨field, found, meant⟩ := Option.bind_eq_some_iff.mp made
  have named := List.find?_some (p := fun field : KnownField σ => member.1 == field.name) found
  rw [record.keyed field (List.mem_of_find?_eq_some found) meant]
  exact (eq_of_beq named).symm

/-- A key of a member is fresh, if it is none of those gathered before and none that comes later. -/
def Fresh (gathered : List (String × σ)) (members : List (String × Value)) : Prop :=
  (members.map Prod.fst).Nodup ∧ ∀ key ∈ members.map Prod.fst, gathered.lookup key = none

/-- Members are fresh behind one more, if this one and they were fresh before it. -/
theorem fresh_cons {gathered : List (String × σ)} {key : String} {value : Value} {setting : σ}
    {members : List (String × Value)} (new : gathered.lookup key = none) :
    Fresh gathered ((key, value) :: members) ↔ Fresh (gathered ++ [(key, setting)]) members := by
  simp only [Fresh, List.map_cons, List.nodup_cons, List.mem_cons, forall_eq_or_imp, new, true_and,
    List.lookup_append, Option.or_eq_none_iff]
  constructor
  · rintro ⟨⟨apart, distinct⟩, unknown⟩
    refine ⟨distinct, fun name inside => ⟨unknown name inside, ?_⟩⟩
    have other : (name == key) = false := by
      simpa using fun same : name = key => apart (same ▸ inside)
    simp [List.lookup_cons, other]
  · rintro ⟨distinct, unknown⟩
    refine ⟨⟨fun inside => ?_, distinct⟩, fun name inside => (unknown name inside).1⟩
    have found := (unknown key inside).2
    simp at found

/-- A member makes a setting, kept under its key. -/
def Makes (member : String × Value) (made : String × σ) : Prop :=
  made.1 = member.1 ∧ record.setting? member = some made.2

/-- Settings are gathered from members if and only if their keys are fresh and each makes one. -/
theorem gatherSettings?_eq_some_iff {gathered all : List (String × σ)}
    {members : List (String × Value)} :
    gatherSettings? record.fields gathered members = some all ↔
      Fresh gathered members ∧
        ∃ made, List.Forall₂ record.Makes members made ∧ all = gathered ++ made := by
  induction members generalizing gathered with
  | nil =>
    simp only [gatherSettings?, Option.some.injEq, Fresh, List.map_nil, List.nodup_nil,
      List.not_mem_nil, List.forall₂_nil_left_iff]
    constructor
    · rintro rfl
      exact ⟨⟨trivial, by simp⟩, [], rfl, by simp⟩
    · rintro ⟨-, made, rfl, rfl⟩
      simp
  | cons member members ih =>
    obtain ⟨key, value⟩ := member
    rw [gatherSettings?]
    constructor
    · intro found
      obtain ⟨field, known, found⟩ := Option.bind_eq_some_iff.mp found
      by_cases repeated : (gathered.lookup key).isSome = true
      · rw [if_pos repeated] at found
        contradiction
      · rw [if_neg repeated] at found
        obtain ⟨setting, meant, found⟩ := Option.bind_eq_some_iff.mp found
        obtain ⟨fresh, made, each, rfl⟩ := ih.mp found
        have new : gathered.lookup key = none := Option.not_isSome_iff_eq_none.mp repeated
        have first : record.setting? (key, value) = some setting :=
          Option.bind_eq_some_iff.mpr ⟨field, known, meant⟩
        exact ⟨(fresh_cons new).mpr fresh, (key, setting) :: made, .cons ⟨rfl, first⟩ each, by simp⟩
    · rintro ⟨fresh, made, each, rfl⟩
      cases each with
      | @cons _ first _ made makes others =>
        obtain ⟨name, setting⟩ := first
        obtain ⟨rfl, first⟩ := makes
        obtain ⟨field, known, meant⟩ := Option.bind_eq_some_iff.mp first
        have new : gathered.lookup name = none := fresh.2 name (by simp)
        refine Option.bind_eq_some_iff.mpr ⟨field, known, ?_⟩
        rw [if_neg (by simp [new])]
        refine Option.bind_eq_some_iff.mpr ⟨setting, meant, ?_⟩
        exact ih.mpr ⟨(fresh_cons new).mp fresh, made, others, by simp⟩

/-- Members make a record if and only if no key is there twice and each makes a setting, and it is
the record of these settings. -/
theorem ofValue?_object {members : List (String × Value)} {result : ρ} :
    record.ofValue? (.object members) = some result ↔
      (members.map Prod.fst).Nodup ∧
        ∃ made, List.Forall₂ record.Makes members made ∧
          result = record.ofSettings (made.map (·.2)) := by
  rw [ofValue?, Option.map_eq_some_iff]
  simp only [settingsOf?, gatherSettings?_eq_some_iff, Fresh, List.lookup_nil, implies_true,
    and_true, List.nil_append]
  constructor
  · rintro ⟨all, ⟨distinct, made, each, same⟩, rfl⟩
    exact ⟨distinct, made, each, by rw [same]⟩
  · rintro ⟨distinct, made, each, rfl⟩
    exact ⟨made, ⟨distinct, made, each, rfl⟩, rfl⟩

/-- One member makes the record of its setting. -/
theorem ofValue?_single (member : String × Value) :
    record.ofValue? (.object [member]) =
      (record.setting? member).map (record.set record.start) := by
  obtain ⟨key, value⟩ := member
  simp only [ofValue?, settingsOf?, gatherSettings?, setting?]
  cases field? record.fields key with
  | none => rfl
  | some field => cases h : field.meaning value <;> simp [h, ofSettings]

/-- Each of some members makes a setting if and only if they make settings together. -/
theorem exists_made_iff {members : List (String × Value)} :
    (∃ made, List.Forall₂ record.Makes members made) ↔
      ∀ member ∈ members, (record.setting? member).isSome = true := by
  induction members with
  | nil => simp
  | cons member members ih =>
    rw [List.forall_mem_cons, ← ih, Option.isSome_iff_exists]
    constructor
    · rintro ⟨_, each⟩
      cases each with
      | cons first others => exact ⟨⟨_, first.2⟩, _, others⟩
    · rintro ⟨⟨setting, first⟩, made, others⟩
      exact ⟨(member.1, setting) :: made, .cons ⟨rfl, first⟩ others⟩

/-- Under a name that no member has, a record keeps what it had. -/
theorem get?_of_notMem {members : List (String × Value)} {made : List (String × σ)}
    (each : List.Forall₂ record.Makes members made) (base : ρ) {name : String}
    (absent : name ∉ members.map Prod.fst) :
    record.get? ((made.map (·.2)).foldl record.set base) name = record.get? base name := by
  induction each generalizing base with
  | nil => rfl
  | @cons member setting members made first _ ih =>
    rw [List.map_cons, List.mem_cons, not_or] at absent
    rw [List.map_cons, List.foldl_cons, ih _ absent.2, record.get?_set,
      record.key_of_setting? first.2, if_neg absent.1]

/-- Under the name of a member, a record has what that member made, if no other one has the name. -/
theorem get?_of_mem {members : List (String × Value)} {made : List (String × σ)}
    (each : List.Forall₂ record.Makes members made) (distinct : (members.map Prod.fst).Nodup)
    (base : ρ) {member : String × Value} (inside : member ∈ members) :
    record.get? ((made.map (·.2)).foldl record.set base) member.1 = record.setting? member := by
  induction each generalizing base with
  | nil => simp at inside
  | @cons first setting members made makes others ih =>
    rw [List.map_cons, List.nodup_cons] at distinct
    rw [List.map_cons, List.foldl_cons]
    rcases List.mem_cons.mp inside with rfl | later
    · rw [record.get?_of_notMem others _ distinct.1, record.get?_set,
        record.key_of_setting? makes.2, if_pos rfl, makes.2]
    · exact ih distinct.2 _ later

/-- Members make a record if and only if no key is there twice and each makes one alone. -/
theorem isSome_ofValue?_iff (members : List (String × Value)) :
    (record.ofValue? (.object members)).isSome = true ↔
      (members.map Prod.fst).Nodup ∧
        ∀ member ∈ members, (record.ofValue? (.object [member])).isSome = true := by
  simp only [ofValue?_single, Option.isSome_map]
  rw [← exists_made_iff, Option.isSome_iff_exists]
  simp only [ofValue?_object]
  constructor
  · rintro ⟨_, distinct, made, each, -⟩
    exact ⟨distinct, made, each⟩
  · rintro ⟨distinct, made, each⟩
    exact ⟨_, distinct, made, each, rfl⟩

/-- A record has under the name of each of its members the setting that this one makes. -/
theorem get?_member {members : List (String × Value)} {result : ρ}
    (made : record.ofValue? (.object members) = some result) {member : String × Value}
    (inside : member ∈ members) : record.get? result member.1 = record.setting? member := by
  obtain ⟨distinct, settings, each, rfl⟩ := record.ofValue?_object.mp made
  exact record.get?_of_mem each distinct _ inside

/-- A record has under any other name what it had before anything was set. -/
theorem get?_other {members : List (String × Value)} {result : ρ}
    (made : record.ofValue? (.object members) = some result) {name : String}
    (absent : name ∉ members.map Prod.fst) :
    record.get? result name = record.get? record.start name := by
  obtain ⟨-, settings, each, rfl⟩ := record.ofValue?_object.mp made
  exact record.get?_of_notMem each _ absent

/-- The order of members does not matter. -/
theorem ofValue?_perm {members others : List (String × Value)} (same : members.Perm others) :
    record.ofValue? (.object members) = record.ofValue? (.object others) := by
  have keys : (members.map Prod.fst).Perm (others.map Prod.fst) := same.map Prod.fst
  have accepted : (record.ofValue? (.object members)).isSome =
      (record.ofValue? (.object others)).isSome := by
    rw [Bool.eq_iff_iff, isSome_ofValue?_iff, isSome_ofValue?_iff, keys.nodup_iff]
    simp only [same.mem_iff]
  cases first : record.ofValue? (.object members) with
  | none =>
    rw [first] at accepted
    exact (Option.isNone_iff_eq_none.mp (Option.isSome_eq_false_iff.mp accepted.symm)).symm
  | some result =>
    rw [first] at accepted
    obtain ⟨other, second⟩ := Option.isSome_iff_exists.mp accepted.symm
    rw [second]
    refine congrArg some (record.ext fun name => ?_)
    by_cases named : name ∈ members.map Prod.fst
    · obtain ⟨member, inside, rfl⟩ := List.mem_map.mp named
      rw [record.get?_member first inside, record.get?_member second (same.mem_iff.mp inside)]
    · have absent : name ∉ others.map Prod.fst := fun found => named (keys.mem_iff.mpr found)
      rw [record.get?_other first named, record.get?_other second absent]

/-- Members that make the same settings under the same keys make the same record. -/
theorem ofValue?_congr {members others : List (String × Value)}
    (same : members.map (fun member => (member.1, record.setting? member)) =
      others.map fun member => (member.1, record.setting? member)) :
    record.ofValue? (.object members) = record.ofValue? (.object others) := by
  have keys : members.map Prod.fst = others.map Prod.fst := by
    simpa [Function.comp_def] using congrArg (List.map Prod.fst) same
  have makes : ∀ made, List.Forall₂ record.Makes members made ↔
      List.Forall₂ record.Makes others made := by
    intro made
    have apart : ∀ list : List (String × Value), List.Forall₂ record.Makes list made ↔
        List.Forall₂ (fun entry setting => setting.1 = entry.1 ∧ entry.2 = some setting.2)
          (list.map fun member => (member.1, record.setting? member)) made := by
      intro list
      rw [List.forall₂_map_left_iff]
      exact Iff.rfl
    rw [apart, apart, same]
  ext result
  simp only [ofValue?_object, keys, makes]

/-- A member that makes no setting makes no record together with others. -/
theorem ofValue?_of_refused {members : List (String × Value)} {member : String × Value}
    (inside : member ∈ members) (refused : record.setting? member = none) :
    record.ofValue? (.object members) = none := by
  cases made : record.ofValue? (.object members) with
  | none => rfl
  | some result =>
    have accepted := ((record.isSome_ofValue?_iff members).mp (by rw [made]; rfl)).2 member inside
    rw [ofValue?_single, refused] at accepted
    contradiction

/-- A key that no field has makes no record. -/
theorem ofValue?_of_unknown {members : List (String × Value)} {member : String × Value}
    (inside : member ∈ members) (unknown : member.1 ∉ record.fields.map KnownField.name) :
    record.ofValue? (.object members) = none := by
  have absent : field? record.fields member.1 = none := by
    rw [field?, List.find?_eq_none]
    intro field found same
    exact unknown (List.mem_map.mpr ⟨field, found, (eq_of_beq same).symm⟩)
  apply record.ofValue?_of_refused inside
  rw [setting?, absent]
  rfl

/-- A key that is there twice makes no record. -/
theorem ofValue?_of_repeated {members : List (String × Value)}
    (repeated : ¬ (members.map Prod.fst).Nodup) : record.ofValue? (.object members) = none := by
  cases made : record.ofValue? (.object members) with
  | none => rfl
  | some result => exact absurd (record.ofValue?_object.mp made).1 repeated

end Record

/-! ## Element ids -/

/-- The name of the field that a choice of an element id is of. -/
def ElementSetting.key : ElementSetting → String
  | .canvas _ => "canvas"
  | .spinner _ => "spinner"
  | .output _ => "output"
  | .status _ => "status"
  | .progress _ => "progress"

/-- All choices that element ids amount to. -/
def ElementIds.settings (ids : ElementIds) : List ElementSetting :=
  [.canvas ids.canvas, .spinner ids.spinner, .output ids.output, .status ids.status,
    .progress ids.progress]

/-- The choice that element ids have under a name. -/
def ElementIds.setting? (ids : ElementIds) (name : String) : Option ElementSetting :=
  ids.settings.find? (name == ·.key)

/-- A choice changes what is found under its own name and nothing else. -/
theorem ElementIds.setting?_set (ids : ElementIds) (setting : ElementSetting) (name : String) :
    (ids.set setting).setting? name =
      if name = setting.key then some setting else ids.setting? name := by
  by_cases same : name = setting.key
  · rw [if_pos same, same]
    cases setting <;> rfl
  · rw [if_neg same]
    have other : (name == setting.key) = false := by simpa using same
    cases setting <;>
      simp only [setting?, settings, set, ElementSetting.key, List.find?_cons] at other ⊢ <;>
      rw [other]

/-- Element ids are known by what is found under each name. -/
theorem ElementIds.ext_of_setting? {ids others : ElementIds}
    (same : ∀ name, ids.setting? name = others.setting? name) : ids = others := by
  obtain ⟨canvas, spinner, output, status, progress⟩ := ids
  obtain ⟨canvas', spinner', output', status', progress'⟩ := others
  obtain rfl : canvas = canvas' := ElementSetting.canvas.inj (Option.some.inj (same "canvas"))
  obtain rfl : spinner = spinner' := ElementSetting.spinner.inj (Option.some.inj (same "spinner"))
  obtain rfl : output = output' := ElementSetting.output.inj (Option.some.inj (same "output"))
  obtain rfl : status = status' := ElementSetting.status.inj (Option.some.inj (same "status"))
  obtain rfl : progress = progress' :=
    ElementSetting.progress.inj (Option.some.inj (same "progress"))
  rfl

/-- A field whose reader is another one with a function applied. -/
def fieldOf {α σ : Type} (name : String) {reader : Json.Reader α} {meaning : Value → Option α}
    (law : Means reader meaning) (f : α → σ) : KnownField σ where
  name := name
  reader := reader.map f
  meaning v := (meaning v).map f
  means := law.map f

/-- What such a field makes of a value is a value of the function. -/
theorem exists_of_meaning {α σ : Type} {name : String} {reader : Json.Reader α}
    {meaning : Value → Option α} {law : Means reader meaning} {f : α → σ} {value : Value}
    {setting : σ} (meant : (fieldOf name law f).meaning value = some setting) :
    ∃ content, setting = f content := by
  obtain ⟨content, -, rfl⟩ := Option.map_eq_some_iff.mp meant
  exact ⟨content, rfl⟩

/-- The fields of element ids. -/
def elementFields : List (KnownField ElementSetting) :=
  [fieldOf "canvas" Json.means_text .canvas,
    fieldOf "spinner" Json.means_text.optional .spinner,
    fieldOf "output" Json.means_text.optional .output,
    fieldOf "status" Json.means_text.optional .status,
    fieldOf "progress" Json.means_text.optional .progress]

/-- Element ids as a record. -/
def elementRecord : Record ElementSetting ElementIds where
  fields := elementFields
  start := {}
  set := .set
  key := ElementSetting.key
  get? := ElementIds.setting?
  keyed := by
    intro field inside value setting meant
    simp only [elementFields, List.mem_cons, List.not_mem_nil, or_false] at inside
    rcases inside with rfl | rfl | rfl | rfl | rfl <;>
    · obtain ⟨content, rfl⟩ := exists_of_meaning meant
      rfl
  get?_set := ElementIds.setting?_set
  ext := ElementIds.ext_of_setting?

/-- The reader of element ids reads that record. -/
theorem means_elements : Means elementsReader elementRecord.ofValue? := by
  have shaped : elementShape.fields = elementFields.map KnownField.entry := rfl
  exact Means.map (Json.means_shape shaped) _

/-! ## Configurations -/

/-- The name of the field that a choice is of. -/
def Setting.key : Setting → String
  | .transport _ => "transport"
  | .elements _ => "elements"
  | .scrollbackLimit _ => "scrollback_limit"
  | .trackWindowSize _ => "track_window_size"
  | .echoToConsole _ => "echo_to_console"

namespace Config

/-- All choices that a configuration amounts to. -/
def settings (config : Config) : List Setting :=
  [.transport config.transport, .elements config.elements, .scrollbackLimit config.scrollbackLimit,
    .trackWindowSize config.trackWindowSize, .echoToConsole config.echoToConsole]

/-- The choice that a configuration has under a name. -/
def setting? (config : Config) (name : String) : Option Setting :=
  config.settings.find? (name == ·.key)

/-- A choice changes what is found under its own name and nothing else. -/
theorem setting?_set (config : Config) (setting : Setting) (name : String) :
    (config.set setting).setting? name =
      if name = setting.key then some setting else config.setting? name := by
  by_cases same : name = setting.key
  · rw [if_pos same, same]
    cases setting <;> rfl
  · rw [if_neg same]
    have other : (name == setting.key) = false := by simpa using same
    cases setting <;>
      simp only [setting?, settings, set, Setting.key, List.find?_cons] at other ⊢ <;>
      rw [other]

/-- Configurations are known by what is found under each name. -/
theorem ext_of_setting? {config other : Config}
    (same : ∀ name, config.setting? name = other.setting? name) : config = other := by
  obtain ⟨transport, elements, limit, track, echo⟩ := config
  obtain ⟨transport', elements', limit', track', echo'⟩ := other
  obtain rfl : transport = transport' := Setting.transport.inj (Option.some.inj (same "transport"))
  obtain rfl : elements = elements' := Setting.elements.inj (Option.some.inj (same "elements"))
  obtain rfl : limit = limit' :=
    Setting.scrollbackLimit.inj (Option.some.inj (same "scrollback_limit"))
  obtain rfl : track = track' :=
    Setting.trackWindowSize.inj (Option.some.inj (same "track_window_size"))
  obtain rfl : echo = echo' := Setting.echoToConsole.inj (Option.some.inj (same "echo_to_console"))
  rfl

end Config

/-- The fields of a configuration. -/
def configFields : List (KnownField Setting) :=
  [fieldOf "transport" (Json.means_oneOf transportNames) .transport,
    fieldOf "elements" means_elements .elements,
    fieldOf "scrollback_limit" Json.means_count.optional .scrollbackLimit,
    fieldOf "track_window_size" Json.means_boolean .trackWindowSize,
    fieldOf "echo_to_console" Json.means_boolean .echoToConsole]

/-- A configuration as a record. -/
def configRecord : Record Setting Config where
  fields := configFields
  start := {}
  set := .set
  key := Setting.key
  get? := Config.setting?
  keyed := by
    intro field inside value setting meant
    simp only [configFields, List.mem_cons, List.not_mem_nil, or_false] at inside
    rcases inside with rfl | rfl | rfl | rfl | rfl <;>
    · obtain ⟨content, rfl⟩ := exists_of_meaning meant
      rfl
  get?_set := Config.setting?_set
  ext := Config.ext_of_setting?

/-- The reader of a configuration reads that record. -/
theorem means_config : Means configReader configRecord.ofValue? := by
  have shaped : configShape.fields = configFields.map KnownField.entry := rfl
  exact Means.map (Json.means_shape shaped) _

/-- An object with the member `elements` alone is a configuration with those element ids. -/
theorem ofValue?_elements (v : Value) :
    configRecord.ofValue? (.object [("elements", v)]) =
      (elementRecord.ofValue? v).map fun elements => { elements } := by
  rw [Record.ofValue?_single]
  change ((elementRecord.ofValue? v).map Setting.elements).map _ = _
  cases elementRecord.ofValue? v <;> rfl

/-! ## Texts -/

/-- Nothing is left of a text if and only if it is blank. -/
theorem Text.trim_eq_nil_iff {text : List Char} :
    trim text = [] ↔ ∀ c ∈ text, isBlank c = true := by
  rw [trim, trimEnd, List.reverse_eq_nil_iff, List.dropWhile_eq_nil_iff]
  simp only [List.mem_reverse, trimStart]
  constructor
  · intro blank c inside
    by_contra printed
    have kept : text.dropWhile isBlank ≠ [] := by
      rw [Ne, List.dropWhile_eq_nil_iff]
      exact fun all => printed (all c inside)
    have visible := List.head_dropWhile_not isBlank kept
    rw [blank _ (List.head_mem kept)] at visible
    contradiction
  · intro blank c inside
    exact blank c ((List.dropWhile_sublist isBlank).subset inside)

namespace Json

/-- A number does not begin with a blank. -/
theorem BeginsNumber.isBlank {c : Char} (begins : BeginsNumber c) : Text.isBlank c = false := by
  rcases begins with rfl | digit
  · rfl
  · have range : 48 ≤ c.toNat ∧ c.toNat ≤ 57 := by
      simpa [Char.isDigit, UInt32.le_iff_toNat_le] using digit
    simp only [Text.isBlank, Bool.or_eq_false_iff, Bool.and_eq_false_iff, decide_eq_false_iff_not,
      beq_eq_false_iff_ne]
    omega

/-- A value does not begin with a blank. -/
theorem exists_printed {text rest : List Char} {v : Value} (stands : Stands text v rest) :
    ∃ c ∈ text, Text.isBlank c = false := by
  have inside : ∀ {c : Char} {body : List Char}, skipSpace text = c :: body → c ∈ text := by
    intro c body first
    refine (List.dropWhile_sublist isSpace).subset ?_
    rw [show text.dropWhile isSpace = c :: body from first]
    exact List.mem_cons_self
  cases stands with
  | null first | true first | false first | string first | array first | object first =>
    exact ⟨_, inside first, rfl⟩
  | number first begins => exact ⟨_, inside first, begins.isBlank⟩

/-- A text that writes a value is read as what the reader makes of it. -/
theorem toOption_readAll {α : Type} {reader : Reader α} {meaning : Value → Option α}
    (law : Means reader meaning) {text : String} {v : Value} (written : Written text v) :
    (readAll reader text).toOption = meaning v := by
  obtain ⟨rest, stands, ended⟩ := written
  have read := law stands
  cases meant : meaning v with
  | none =>
    rw [meant] at read
    obtain ⟨fault, refused⟩ := exists_error_of_toOption read
    rw [readAll, refused]
    rfl
  | some result =>
    rw [meant] at read
    rw [readAll, eq_ok_of_toOption read]
    simp only [ended]
    rfl

end Json

/-- A text that writes a value gives the configuration that the value makes. -/
theorem Config.toOption_parse {text : String} {v : Value} (written : Written text v) :
    (Config.parse text).toOption = configRecord.ofValue? v := by
  have printed : ¬ (Text.trim text.toList).isEmpty = true := by
    obtain ⟨rest, stands, -⟩ := written
    obtain ⟨c, inside, visible⟩ := Json.exists_printed stands
    rw [List.isEmpty_iff, Text.trim_eq_nil_iff]
    intro blank
    rw [blank c inside] at visible
    contradiction
  rw [Config.parse, if_neg printed]
  exact Json.toOption_readAll means_config written

/-- A text that writes a value is accepted if and only if the value makes a configuration. -/
theorem Config.parse_eq_ok_iff {text : String} {v : Value} (written : Written text v)
    {config : Config} :
    Config.parse text = .ok config ↔ configRecord.ofValue? v = some config := by
  rw [← Config.toOption_parse written]
  exact ⟨fun accepted => Json.toOption_of_ok accepted, Json.eq_ok_of_toOption⟩

/-- A text that writes a value is refused if the value makes no configuration. -/
theorem Config.parse_eq_error {text : String} {v : Value} (written : Written text v)
    (refused : configRecord.ofValue? v = none) : ∃ error, Config.parse text = .error error :=
  Json.exists_error_of_toOption ((Config.toOption_parse written).trans refused)

/-- Configurations compose member by member. A text puts an object of members into a configuration
as `whole` says, and is one if and only if no key is there twice and each member alone makes one.
Under the key of a member it then has what that member alone gives it, and under any other name the
default, where `get?` says what a configuration has under a name. -/
def Config.Composes {σ : Type} (whole : List (String × Value) → Value)
    (get? : Config → String → Option σ) : Prop :=
  ∀ (members : List (String × Value)) (text : String) (single : String × Value → String),
    Written text (whole members) → (∀ member ∈ members, Written (single member) (whole [member])) →
    ((∃ config, Config.parse text = .ok config) ↔
      (members.map Prod.fst).Nodup ∧
        ∀ member ∈ members, ∃ config, Config.parse (single member) = .ok config) ∧
    ∀ config, Config.parse text = .ok config →
      (∀ member ∈ members, ∀ one, Config.parse (single member) = .ok one →
        get? config member.1 = get? one member.1) ∧
      ∀ name, name ∉ members.map Prod.fst → get? config name = get? {} name

/-- The members of an object that `whole` puts into a configuration may stand in any order. -/
def Config.Orderless (whole : List (String × Value) → Value) : Prop :=
  ∀ (members others : List (String × Value)) (text other : String), members.Perm others →
    Written text (whole members) → Written other (whole others) →
    (Config.parse text).toOption = (Config.parse other).toOption

/-- The members of an object that `whole` puts into a configuration are refused with a key that is
none of the given names, and with one that is there twice. -/
def Config.Strict (names : List String) (whole : List (String × Value) → Value) : Prop :=
  ∀ (members : List (String × Value)) (text : String), Written text (whole members) →
    (∃ member ∈ members, member.1 ∉ names) ∨ ¬ (members.map Prod.fst).Nodup →
    ∃ error, Config.parse text = .error error

/-- Configurations compose by the members of a record that is put into them. -/
theorem Config.composes_of_record {σ ρ : Type} (record : Record σ ρ)
    {whole : List (String × Value) → Value} {get? : Config → String → Option σ} (embed : ρ → Config)
    (law : ∀ members, configRecord.ofValue? (whole members) =
      (record.ofValue? (.object members)).map embed)
    (shows : ∀ result, get? (embed result) = record.get? result)
    (default : embed record.start = {}) : Config.Composes whole get? := by
  intro members text single written singles
  have accepts : ∀ {list : List (String × Value)} {text : String}, Written text (whole list) →
      ((∃ config, Config.parse text = .ok config) ↔
        (record.ofValue? (.object list)).isSome = true) := by
    intro list text written
    simp only [Config.parse_eq_ok_iff written, law, ← Option.isSome_iff_exists, Option.isSome_map]
  refine ⟨?_, ?_⟩
  · rw [accepts written, record.isSome_ofValue?_iff]
    refine and_congr_right fun _ => forall₂_congr fun member inside => ?_
    exact (accepts (singles member inside)).symm
  · intro config accepted
    rw [Config.parse_eq_ok_iff written, law] at accepted
    obtain ⟨result, made, rfl⟩ := Option.map_eq_some_iff.mp accepted
    constructor
    · intro member inside one alone
      rw [Config.parse_eq_ok_iff (singles member inside), law] at alone
      obtain ⟨single, first, rfl⟩ := Option.map_eq_some_iff.mp alone
      rw [shows, shows, record.get?_member made inside, record.get?_member first (by simp)]
    · intro name absent
      rw [← default, shows, shows, record.get?_other made absent]

/-- Members may stand in any order where a configuration depends on the record that they make. -/
theorem Config.orderless_of_record {σ ρ : Type} (record : Record σ ρ)
    {whole : List (String × Value) → Value}
    (law : ∀ {members others},
      record.ofValue? (.object members) = record.ofValue? (.object others) →
        configRecord.ofValue? (whole members) = configRecord.ofValue? (whole others)) :
    Config.Orderless whole := by
  intro members others text other same written written'
  rw [Config.toOption_parse written, Config.toOption_parse written']
  exact law (record.ofValue?_perm same)

/-- Members are refused where a configuration needs the record that they do not make. -/
theorem Config.strict_of_record {σ ρ : Type} (record : Record σ ρ)
    {whole : List (String × Value) → Value}
    (needs : ∀ {members}, record.ofValue? (.object members) = none →
      configRecord.ofValue? (whole members) = none) :
    Config.Strict (record.fields.map KnownField.name) whole := by
  rintro members text written (⟨member, inside, unknown⟩ | repeated)
  · exact Config.parse_eq_error written (needs (record.ofValue?_of_unknown inside unknown))
  · exact Config.parse_eq_error written (needs (record.ofValue?_of_repeated repeated))

/-- The element ids that a member names are those that its value makes. -/
theorem setting?_elements (v : Value) :
    configRecord.setting? ("elements", v) = (elementRecord.ofValue? v).map .elements := rfl

/-- Configurations compose member by member, and so do the element ids inside them. At both levels
the order of members does not matter, and a key that is unknown or there twice is refused. A blank
text and an empty object give the default. All this is said of every text that denotes an object:
each one writes members. -/
theorem configurations_compose :
    Config.Composes .object Config.setting? ∧
    Config.Composes (fun inner => .object [("elements", .object inner)])
      (fun config => config.elements.setting?) ∧
    Config.Orderless .object ∧ Config.Strict (configShape.fields.map Prod.fst) .object ∧
    (∀ before after : List (String × Value),
      let whole inner := Value.object (before ++ ("elements", .object inner) :: after)
      Config.Orderless whole ∧ Config.Strict (elementShape.fields.map Prod.fst) whole) ∧
    (∀ text : String, (∀ c ∈ text.toList, Text.isBlank c = true) → Config.parse text = .ok {}) ∧
    (∀ text : String, Written text (.object []) → Config.parse text = .ok {}) ∧
    ∀ (text : String) (fields : List (String × Value)), Json.parse text = .ok (.object fields) →
      ∃ members, Written text (.object members) := by
  refine ⟨?_, ?_, ?_, ?_, ?_, ?_, ?_, ?_⟩
  · exact Config.composes_of_record configRecord id (fun members => by simp) (fun _ => rfl) rfl
  · exact Config.composes_of_record elementRecord (fun elements => { elements })
      (fun inner => ofValue?_elements (.object inner)) (fun _ => rfl) rfl
  · exact Config.orderless_of_record configRecord id
  · exact Config.strict_of_record configRecord id
  · intro before after whole
    constructor
    · apply Config.orderless_of_record elementRecord
      intro inner others same
      apply configRecord.ofValue?_congr
      simp only [List.map_append, List.map_cons, setting?_elements, same]
    · apply Config.strict_of_record elementRecord
      intro inner refused
      have inside : ("elements", Value.object inner) ∈
          before ++ ("elements", Value.object inner) :: after := by simp
      apply configRecord.ofValue?_of_refused inside
      rw [setting?_elements, refused]
      rfl
  · intro text blank
    rw [Config.parse, if_pos (List.isEmpty_iff.mpr (Text.trim_eq_nil_iff.mpr blank))]
  · intro text written
    exact (Config.parse_eq_ok_iff written).mpr rfl
  · intro text fields parsed
    obtain ⟨v, written, same⟩ := Json.written_of_parse parsed
    cases v with
    | object members => exact ⟨members, written⟩
    | null | bool | number | string | array => simp [Value.tidy] at same

/-- A limit beside an object of element ids: each is a configuration alone, their order does not
matter at either level, and neither may be there twice. -/
theorem configurations_compose_nested :
    let inner : List (String × Value) := [("spinner", .null), ("canvas", .string "nacl")]
    let limit : String × Value := ("scrollback_limit", .number (.integer (.ofUInt32 4096)))
    let members := [limit, ("elements", .object inner)]
    let single := fun member : String × Value => (Value.object [member]).render
    (Value.object members).render =
        "\x7b\"scrollback_limit\":4096,\"elements\":\x7b\"spinner\":null,\"canvas\":\"nacl\"\x7d\x7d" ∧
      Written (Value.object members).render (.object members) ∧
      (∃ config, Config.parse (single limit) = .ok config) ∧
      (Config.parse (Value.object members).render).toOption =
        (Config.parse (Value.object members.reverse).render).toOption ∧
      (Config.parse (Value.object members).render).toOption =
        (Config.parse (Value.object [limit, ("elements", .object inner.reverse)]).render).toOption ∧
      (∃ error, Config.parse (Value.object (members ++ [limit])).render = .error error) := by
  intro inner limit members single
  obtain ⟨composes, -, orderless, strict, nested, -⟩ := configurations_compose
  have ids : ∀ list : List (String × Value), list ⊆ inner → Json.Plain 1 (.object list) := by
    intro list among
    refine .object fun member inside => ?_
    have known := among inside
    simp only [inner, List.mem_cons, List.not_mem_nil, or_false] at known
    rcases known with rfl | rfl
    · exact .null
    · exact .string "nacl"
  have plain : ∀ member ∈ members, Json.Plain 1 member.2 :=
    List.forall_mem_cons.mpr
      ⟨.integer _, List.forall_mem_singleton.mpr (ids inner (List.Subset.refl inner))⟩
  have writes : ∀ list : List (String × Value), (∀ member ∈ list, Json.Plain 1 member.2) →
      Written (Value.object list).render (.object list) := fun list values =>
    Json.written_render (.object values)
  have written := writes members plain
  have accepted : ∃ config, Config.parse (Value.object members).render = .ok config := by
    have read : (Config.parse (Value.object members).render).toOption =
        some { elements := { spinner := none, canvas := "nacl" },
               scrollbackLimit := some 4096 } := by
      decide +kernel
    exact ⟨_, Json.eq_ok_of_toOption read⟩
  refine ⟨by decide +kernel, written, ?_, ?_, ?_, ?_⟩
  · have singles : ∀ member ∈ members, Written (single member) (.object [member]) :=
      fun member inside => writes [member] (List.forall_mem_singleton.mpr (plain member inside))
    have alone := ((composes members _ single written singles).1.mp accepted).2
    exact alone limit List.mem_cons_self
  · exact orderless members members.reverse _ _ (List.reverse_perm members).symm written
      (writes _ fun member inside => plain member (List.mem_reverse.mp inside))
  · have turned : ∀ member ∈ [limit, ("elements", .object inner.reverse)],
        Json.Plain 1 member.2 :=
      List.forall_mem_cons.mpr ⟨.integer _, List.forall_mem_singleton.mpr
        (ids inner.reverse fun member inside => List.mem_reverse.mp inside)⟩
    exact (nested [limit] []).1 inner inner.reverse _ _ (List.reverse_perm inner).symm written
      (writes _ turned)
  · have twice : ¬ ((members ++ [limit]).map Prod.fst).Nodup := by decide
    refine strict (members ++ [limit]) _ (writes _ ?_) (Or.inr twice)
    exact List.forall_mem_append.mpr ⟨plain, List.forall_mem_singleton.mpr (.integer _)⟩

end Embed
