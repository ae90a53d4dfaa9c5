import Embed.Message.Command
import Embed.Proofs.Decoding
/-!
# Commands are read back

The record that is posted for a command denotes the command: its kind under `msg`, its value under
`val` if it has one, and nothing else. Decoded as a payload it is a message of the same kind, unless
that kind demands a member that the command does not carry.
-/

namespace Embed.Command

/-- The members that the record of a command is read as. -/
def members (command : Command) : Fields :=
  ("msg", .string command.kind) :: command.value?.toList.map fun v => ("val", v.tidy)

/-- The record of a command is one level deeper than its value. -/
theorem plain_toValue {command : Command} {depth : Nat}
    (plain : ∀ v ∈ command.value?, Json.Plain depth v) :
    Json.Plain (depth + 1) command.toValue := by
  obtain ⟨kind, value?⟩ := command
  refine .object fun member inside => ?_
  cases value? with
  | none =>
    obtain rfl := List.mem_singleton.mp inside
    exact .string kind
  | some v =>
    rcases List.mem_cons.mp inside with rfl | inside
    · exact .string kind
    · obtain rfl := List.mem_singleton.mp inside
      exact plain v rfl

/-- The members of a record are written in their order. -/
theorem tidy_toValue (command : Command) : command.toValue.tidy = .object command.members := by
  obtain ⟨kind, value?⟩ := command
  cases value? with
  | none => rfl
  | some v =>
    -- `msg` comes before `val`, so gathering the two changes nothing.
    have ascending : Json.Ascending (members ⟨kind, some v⟩) :=
      Json.ascending_pair (by decide) _ _
    exact congrArg Json.Value.object (Json.gather_of_ascending ascending)

/-- A command is read back member by member. -/
theorem parse_text {command : Command} (plain : ∀ v ∈ command.value?, Json.Plain 126 v) :
    Json.parse command.text = .ok (.object command.members) := by
  rw [← tidy_toValue]
  exact Json.parse_render (plain_toValue plain)

/-- The kind is found under `msg`. -/
theorem member?_msg (command : Command) :
    (Json.Value.object command.members).member? "msg" = some (.string command.kind) := rfl

/-- The value is found under `val`. -/
theorem member?_val (command : Command) :
    (Json.Value.object command.members).member? "val" = command.value?.map Json.Value.tidy := by
  obtain ⟨kind, value?⟩ := command
  cases value? <;> rfl

/-- Nothing is found under another name. -/
theorem member?_other (command : Command) {name : String} (notMsg : name ≠ "msg")
    (notVal : name ≠ "val") : (Json.Value.object command.members).member? name = none := by
  obtain ⟨kind, value?⟩ := command
  cases value? <;> simp [Json.Value.member?, members, Json.lookup_member, notMsg, notVal]

/-- A value is a text only if it was one before its members were gathered. -/
theorem tidy_eq_string {v : Json.Value} {s : String} : v.tidy = .string s ↔ v = .string s := by
  cases v <;> simp [Json.Value.tidy]

/-- The record of a command has a line if its value is one. -/
theorem hasLine_iff {command : Command} {line : String} :
    HasLine (.object command.members) line ↔ command.value? = some (.string line) := by
  simp [HasLine, member?_val, tidy_eq_string]

/-- The record of a command has no size. -/
theorem not_hasSize (command : Command) (size : Size) :
    ¬ HasSize (.object command.members) size := by
  rintro ⟨⟨i, found, -⟩, -⟩
  rw [member?_other command (by decide) (by decide)] at found
  contradiction

/-- A command whose value is plain and in order is read back as it is. -/
theorem members_of_ordered {command : Command}
    (ordered : ∀ v ∈ command.value?, Json.Ordered v) :
    command.members =
      ("msg", .string command.kind) :: command.value?.toList.map fun v => ("val", v) := by
  obtain ⟨kind, value?⟩ := command
  cases value? with
  | none => rfl
  | some v =>
    have same : v.tidy = v := Json.tidy_of_ordered (ordered v rfl)
    simp [members, same]

/-- A posted command denotes its kind and its value and nothing else, whatever its kind is spelled
with, and is decoded to what its kind and its value make it. -/
theorem command_reads_back (command : Command)
    (plain : ∀ v ∈ command.value?, Json.Plain 126 v) :
    ((∀ v ∈ command.value?, Json.Ordered v) →
      Json.parse command.text = .ok (.object
        (("msg", .string command.kind) :: command.value?.toList.map fun v => ("val", v)))) ∧
    (command.kind ≠ "log" → command.kind ≠ "resize" →
      decodeStructured command.text = .ok (.unknown command.kind)) ∧
    (∀ line, command.kind = "log" → command.value? = some (.string line) →
      decodeStructured command.text = .ok (.log line)) ∧
    (command.kind = "log" → (∀ line, command.value? ≠ some (.string line)) →
      ∃ reason, decodeStructured command.text = .error (.invalidField "log" reason)) ∧
    (command.kind = "resize" →
      ∃ reason, decodeStructured command.text = .error (.invalidField "resize" reason)) := by
  have parsed := parse_text plain
  have decoded : decodeStructured command.text = decodeValue (.object command.members) := by
    rw [decodeStructured, parsed]
  have named := member?_msg command
  rw [decoded]
  refine ⟨?_, ?_, ?_, ?_, ?_⟩
  · intro ordered
    rw [parsed, members_of_ordered ordered]
  · intro notLog notResize
    exact decodeValue_unknown named notLog notResize
  · intro line isLog given
    rw [isLog] at named
    exact decodeValue_log named (hasLine_iff.mpr given)
  · intro isLog other
    rw [isLog] at named
    exact decodeValue_lacking named (.line fun line has => other line (hasLine_iff.mp has))
  · intro isResize
    rw [isResize] at named
    exact decodeValue_lacking named (.size (not_hasSize command))

/-- A kind with a quote, a backslash and a control character, posted with an object; and a line
that is `null`. -/
theorem command_reads_back_escaped :
    let kind := "é\"\\\n"
    let nested : Json.Value := .object [("a", .array []), ("b", .null)]
    Json.Plain 126 nested ∧ Json.Ordered nested ∧
      Json.parse (text ⟨kind, some nested⟩) =
        .ok (.object [("msg", .string kind), ("val", nested)]) ∧
      decodeStructured (text ⟨kind, some nested⟩) = .ok (.unknown kind) ∧
      Json.parse (text ⟨"log", some .null⟩) =
        .ok (.object [("msg", .string "log"), ("val", .null)]) ∧
      ∃ reason, decodeStructured (text ⟨"log", some .null⟩) =
        .error (.invalidField "log" reason) := by
  intro kind nested
  have plain : Json.Plain 126 nested := by
    refine .object fun member inside => ?_
    rcases List.mem_cons.mp inside with rfl | inside
    · exact .array (by simp)
    · obtain rfl := List.mem_singleton.mp inside
      exact .null
  have ordered : Json.Ordered nested := by
    refine .object (Json.ascending_pair (by decide) _ _) fun member inside => ?_
    rcases List.mem_cons.mp inside with rfl | inside
    · exact .array (by simp)
    · obtain rfl := List.mem_singleton.mp inside
      exact .null
  have only : ∀ {v w : Json.Value}, w ∈ some v → w = v := fun inside =>
    (Option.some.inj inside).symm
  obtain ⟨same, unknown, -⟩ := command_reads_back ⟨kind, some nested⟩ fun v inside =>
    only inside ▸ plain
  obtain ⟨null, -, -, refused, -⟩ := command_reads_back ⟨"log", some .null⟩ fun v inside =>
    only inside ▸ .null
  exact ⟨plain, ordered, same fun v inside => only inside ▸ ordered,
    unknown (by decide) (by decide), null fun v inside => only inside ▸ .null,
    refused rfl fun line => by simp⟩

end Embed.Command
