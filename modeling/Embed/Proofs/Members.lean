import Embed.Json.Parser
import Mathlib.Data.List.Induction
/-!
# Members of an object

An object is read member by member, and each member is put in its place in the order of keys. The
order in which a text writes them is lost that way, and so is every member whose key is written
again behind it: what is found under a key is the last that was written.
-/

namespace Embed.Json

/-- A member at the front is found under its own key. -/
theorem lookup_member (key name : String) (value : Value) (members : List (String × Value)) :
    ((key, value) :: members).lookup name =
      if name = key then some value else members.lookup name := by
  by_cases same : name = key
  · simp [same]
  · have apart : (name == key) = false := by simpa using same
    simp [List.lookup_cons, apart, same]

/-- A member that was put in its place is found under its key, and hides no other key. -/
theorem lookup_insertMember (key name : String) (value : Value) (members : List (String × Value)) :
    (insertMember key value members).lookup name =
      if name = key then some value else members.lookup name := by
  induction members with
  | nil => exact lookup_member key name value []
  | cons member members ih =>
    obtain ⟨k, v⟩ := member
    by_cases before : key < k
    · rw [insertMember, if_pos before]
      exact lookup_member key name value _
    · rw [insertMember, if_neg before]
      by_cases same : key = k
      · rw [if_pos same, lookup_member, lookup_member, ← same]
        split <;> rfl
      · rw [if_neg same, lookup_member, lookup_member, ih]
        by_cases found : name = key
        · have other : ¬ name = k := fun there => same (found.symm.trans there)
          rw [if_neg other, if_pos found, if_pos found]
        · rw [if_neg found, if_neg found]

/-- The object that written members make, each put in its place in turn. -/
def gather (written : List (String × Value)) : List (String × Value) :=
  written.foldl (fun members member => insertMember member.1 member.2 members) []

/-- The last member is put in its place last. -/
theorem gather_concat (written : List (String × Value)) (key : String) (value : Value) :
    gather (written ++ [(key, value)]) = insertMember key value (gather written) :=
  List.foldl_append

/-- Of the members written under a key the last one is found. -/
theorem lookup_gather (written : List (String × Value)) (name : String) :
    (gather written).lookup name = written.reverse.lookup name := by
  induction written using List.reverseRecOn with
  | nil => rfl
  | append_singleton earlier last ih =>
    obtain ⟨key, value⟩ := last
    rw [gather_concat, lookup_insertMember, ih, List.reverse_concat, lookup_member]

/-- Members stand in ascending order of their keys, so that no key is there twice. -/
def Ascending (members : List (String × Value)) : Prop :=
  members.Pairwise fun first second => first.1 < second.1

/-- Two members are in order if their keys are. -/
theorem ascending_pair {first second : String} (before : first < second) (value other : Value) :
    Ascending [(first, value), (second, other)] :=
  List.pairwise_pair.mpr before

/-- A member whose key comes after all others goes behind them. -/
theorem insertMember_last {key : String} {members : List (String × Value)}
    (after : ∀ member ∈ members, member.1 < key) (value : Value) :
    insertMember key value members = members ++ [(key, value)] := by
  induction members with
  | nil => rfl
  | cons member members ih =>
    obtain ⟨k, v⟩ := member
    have first : k < key := after (k, v) List.mem_cons_self
    have others : ∀ member ∈ members, member.1 < key := fun member inside =>
      after member (List.mem_cons_of_mem _ inside)
    have notBefore : ¬ key < k := fun before => String.lt_irrefl k (String.lt_trans first before)
    have different : ¬ key = k := by
      rintro rfl
      exact String.lt_irrefl key first
    rw [insertMember, if_neg notBefore, if_neg different, ih others]
    rfl

/-- Members that are written in order stay where they are. -/
theorem gather_of_ascending {members : List (String × Value)} (ascending : Ascending members) :
    gather members = members := by
  induction members using List.reverseRecOn with
  | nil => rfl
  | append_singleton earlier last ih =>
    obtain ⟨key, value⟩ := last
    obtain ⟨before, -, after⟩ := List.pairwise_append.mp ascending
    rw [gather_concat, ih before]
    exact insertMember_last (fun member inside => after member inside _ List.mem_cons_self) value

/-- What a mapped reader reads is what the other reader reads, mapped. -/
theorem Reader.map_run {α β : Type} {f : α → β} {reader : Reader α} {text rest : List Char}
    {result : β} :
    (reader.map f).run text = .ok (result, rest) ↔
      ∃ value, reader.run text = .ok (value, rest) ∧ f value = result := by
  simp only [Reader.map]
  cases reader.run text with
  | error fault => simp
  | ok pair =>
    obtain ⟨value, left⟩ := pair
    simp only [Except.ok.injEq, Prod.mk.injEq]
    constructor
    · rintro ⟨rfl, rfl⟩
      exact ⟨value, ⟨rfl, rfl⟩, rfl⟩
    · rintro ⟨_, ⟨rfl, rfl⟩, rfl⟩
      exact ⟨rfl, rfl⟩

/-- Nothing is gathered where the object ends. -/
theorem members_close {σ : Type} (onKey : OnKey σ) (gathered : σ) (rest : List Char) :
    members onKey gathered (.close rest) = .ok (gathered, rest) := by
  rw [members]

/-- One member is read, and then the others. -/
theorem members_entry {σ : Type} {onKey : OnKey σ} {gathered gathered' : σ}
    {text key afterKey valueText rest : List Char} {reader : Reader σ} {next : Next}
    (quoted : stringBody text = .ok (key, afterKey))
    (known : onKey gathered (String.ofList key) = .ok reader)
    (mark : colon afterKey = .ok valueText)
    (here : reader.run valueText = .ok (gathered', rest)) (following : nextKey rest = .ok next) :
    members onKey gathered (.entry text) = members onKey gathered' next := by
  -- The loop remembers what it matched, so each match is opened with its own equation.
  rw [members]
  split <;> rename_i read <;> rw [quoted] at read <;> cases read
  simp only [known]
  split <;> rename_i read <;> rw [mark] at read <;> cases read
  split <;> rename_i read <;> rw [here] at read <;> cases read
  split <;> rename_i read <;> rw [following] at read <;> cases read
  rfl

end Embed.Json
