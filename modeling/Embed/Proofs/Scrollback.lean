import Embed.Session
import Mathlib.Data.List.Infix
/-!
# Output keeps the end of its whole history

Output is cut again and again, each time to what fits the limit then. What is left is all the same
the longest end of everything ever appended that fits: what a cut took away could not have been part
of a longer one, because more text only leaves less room for what came before it.

Counted in bytes a cut is a search: from the first byte that may stay it goes up to the next place
between two characters. The end of the text is such a place, so the search never goes beyond it.
-/

namespace Embed

namespace Text

/-- No text takes no bytes. -/
@[simp]
theorem byteLength_nil : byteLength [] = 0 := rfl

/-- The first character takes its bytes, and the others theirs. -/
@[simp]
theorem byteLength_cons (c : Char) (text : List Char) :
    byteLength (c :: text) = c.utf8Size + byteLength text := rfl

/-- Texts one after the other take the bytes of both. -/
theorem byteLength_append (first second : List Char) :
    byteLength (first ++ second) = byteLength first + byteLength second := by
  induction first with
  | nil => simp
  | cons c text ih => simp [ih, Nat.add_assoc]

/-- The bytes of a text are those of its encoding. -/
theorem byteLength_toList (text : String) : byteLength text.toList = text.utf8ByteSize := by
  have encoded : ∀ chars, (String.ofList chars).utf8ByteSize = byteLength chars := by
    intro chars
    induction chars with
    | nil => rfl
    | cons c chars ih =>
      have split : String.ofList (c :: chars) = String.singleton c ++ String.ofList chars :=
        String.toList_injective (by simp)
      rw [split, String.utf8ByteSize_append, String.utf8ByteSize_singleton, ih, byteLength_cons]
  rw [← encoded, String.ofList_toList]

/-- An end of a text takes no more bytes than the text. -/
theorem byteLength_le_of_suffix {ending text : List Char} (ends : ending <:+ text) :
    byteLength ending ≤ byteLength text := by
  obtain ⟨front, rfl⟩ := ends
  have whole := byteLength_append front ending
  omega

/-- What is left when bytes were dropped from the front is an end of the text. -/
theorem dropBytes_suffix (bytes : Nat) (text : List Char) : dropBytes bytes text <:+ text := by
  fun_induction dropBytes bytes text with
  | case1 text => exact List.suffix_rfl
  | case2 => exact List.suffix_rfl
  | case3 bytes c text ih => exact ih.trans (List.suffix_cons c text)

/-- At least as many bytes are dropped as are to be, as long as there are any. -/
theorem byteLength_dropBytes (bytes : Nat) (text : List Char) :
    byteLength (dropBytes bytes text) ≤ byteLength text - bytes := by
  fun_induction dropBytes bytes text with
  | case1 text => omega
  | case2 => simp
  | case3 bytes c text ih =>
    rw [byteLength_cons]
    omega

/-- No more characters are dropped than have to be: every end of the text without the bytes to drop
is left. -/
theorem suffix_dropBytes (bytes : Nat) (text : List Char) {ending : List Char}
    (ends : ending <:+ text) (small : byteLength ending ≤ byteLength text - bytes) :
    ending <:+ dropBytes bytes text := by
  fun_induction dropBytes bytes text with
  | case1 text => exact ends
  | case2 => exact ends
  | case3 bytes c text ih =>
    have positive := c.utf8Size_pos
    rw [byteLength_cons] at small
    rcases List.suffix_cons_iff.mp ends with rfl | shorter
    · rw [byteLength_cons] at small
      omega
    · have bounded := byteLength_le_of_suffix shorter
      exact ih shorter (by omega)

end Text

/-- A text takes no more bytes than the limit, if there is one. -/
def Fits (limit : Option Nat) (text : List Char) : Prop :=
  ∀ bytes, limit = some bytes → Text.byteLength text ≤ bytes

/-- What is kept of a text is the longest of its ends that fits. -/
structure LongestEnd (limit : Option Nat) (text kept : List Char) : Prop where
  /-- It is an end of the text. -/
  ends : kept <:+ text
  /-- It fits. -/
  fits : Fits limit kept
  /-- Every end that fits is an end of it. -/
  longest : ∀ other, other <:+ text → Fits limit other → other <:+ kept

variable {limit : Option Nat} {text kept piece : List Char}

/-- A text that comes before another fits if both together do. -/
theorem Fits.of_append (fits : Fits limit (text ++ piece)) : Fits limit text := by
  intro bytes bounded
  have whole := fits bytes bounded
  rw [Text.byteLength_append] at whole
  omega

/-- A text that fits is kept whole. -/
theorem longestEnd_of_fits (fits : Fits limit text) : LongestEnd limit text text :=
  ⟨List.suffix_rfl, fits, fun _ ends _ => ends⟩

/-- There is only one longest end. -/
theorem LongestEnd.unique {other : List Char} (one : LongestEnd limit text kept)
    (another : LongestEnd limit text other) : kept = other := by
  have inside : kept <:+ other := another.longest kept one.ends one.fits
  have outside : other <:+ kept := one.longest other another.ends another.fits
  exact inside.eq_of_length (Nat.le_antisymm inside.length_le outside.length_le)

/-- A text cut to a limit is its longest end that fits. -/
theorem longestEnd_fitted (bytes : Nat) (text : List Char) :
    LongestEnd (some bytes) text (fitted bytes text) := by
  refine ⟨Text.dropBytes_suffix _ _, ?_, ?_⟩
  · intro limit same
    obtain rfl := Option.some.inj same
    have dropped := Text.byteLength_dropBytes (Text.byteLength text - bytes) text
    unfold fitted
    omega
  · intro other ends fits
    have bounded := Text.byteLength_le_of_suffix ends
    have small := fits bytes rfl
    exact Text.suffix_dropBytes _ text ends (by omega)

/-- The longest end that fits is found in what an earlier cut has left, whatever text follows. -/
theorem LongestEnd.append {rest : List Char} (before : LongestEnd limit text kept)
    (after : LongestEnd limit (kept ++ piece) rest) : LongestEnd limit (text ++ piece) rest := by
  have inside : kept ++ piece <:+ text ++ piece := List.suffix_append_self_iff.mpr before.ends
  refine ⟨after.ends.trans inside, after.fits, ?_⟩
  intro other ends fits
  apply after.longest other _ fits
  -- Either the end lies within the new text, or it is an end of the old text with the new one.
  have comparable := List.suffix_or_suffix_of_suffix ends (List.suffix_append text piece)
  rcases comparable with new | ⟨front, rfl⟩
  · exact new.trans (List.suffix_append kept piece)
  · have old : front <:+ text := List.suffix_append_self_iff.mp ends
    exact List.suffix_append_self_iff.mpr (before.longest front old fits.of_append)

namespace Scrollback

/-- Appending does not change the limit. -/
@[simp]
theorem limit_append (buffer : Scrollback) (piece : String) :
    (buffer.append piece).1.limit = buffer.limit := by
  unfold append
  dsimp only
  split
  · rfl
  · split <;> rfl

/-- Appending keeps the longest end that fits of what is there and what is appended. -/
theorem longestEnd_append (buffer : Scrollback) (piece : String) :
    LongestEnd buffer.limit (buffer.text.toList ++ piece.toList)
      (buffer.append piece).1.text.toList := by
  rw [← String.toList_append]
  unfold append
  dsimp only
  cases buffer.limit with
  | none =>
    apply longestEnd_of_fits
    intro bytes bounded
    contradiction
  | some limit =>
    dsimp only
    split
    · rw [String.toList_ofList]
      exact longestEnd_fitted limit _
    · rename_i small
      apply longestEnd_of_fits
      intro bytes bounded
      obtain rfl := Option.some.inj bounded
      omega

/-- The output after texts were appended one after the other. -/
def appendAll (buffer : Scrollback) (pieces : List String) : Scrollback :=
  pieces.foldl (fun buffer piece => (buffer.append piece).1) buffer

/-- Texts that are appended in two parts are appended one after the other. -/
theorem appendAll_appendAll (buffer : Scrollback) (pieces later : List String) :
    (buffer.appendAll pieces).appendAll later = buffer.appendAll (pieces ++ later) :=
  List.foldl_append.symm

/-- Output that keeps the longest end of its history does so after any texts. -/
theorem longestEnd_appendAll (buffer : Scrollback) (pieces : List String) {history : List Char}
    (kept : LongestEnd buffer.limit history buffer.text.toList) :
    LongestEnd buffer.limit (history ++ pieces.flatMap String.toList)
      (buffer.appendAll pieces).text.toList := by
  induction pieces generalizing buffer history with
  | nil => simpa [appendAll] using kept
  | cons piece pieces ih =>
    have next := kept.append (buffer.longestEnd_append piece)
    rw [← limit_append buffer piece] at next
    have later := ih (buffer.append piece).1 next
    rw [limit_append, List.append_assoc] at later
    exact later

/-- Output that begins empty is the longest end of all that was appended. -/
theorem longestEnd_history (limit : Option Nat) (pieces : List String) :
    LongestEnd limit (pieces.flatMap String.toList)
      (appendAll { limit } pieces).text.toList := by
  have empty : LongestEnd limit [] [] := longestEnd_of_fits fun bytes _ => Nat.zero_le bytes
  exact longestEnd_appendAll { limit } pieces empty

/-- No texts change the limit. -/
theorem limit_appendAll (buffer : Scrollback) (pieces : List String) :
    (buffer.appendAll pieces).limit = buffer.limit := by
  induction pieces generalizing buffer with
  | nil => rfl
  | cons piece pieces ih => exact (ih (buffer.append piece).1).trans (limit_append buffer piece)

/-- An append reports that older text went exactly if the whole does not fit. -/
theorem snd_append (buffer : Scrollback) (piece : String) :
    (buffer.append piece).2 = true ↔ ¬ Fits buffer.limit (buffer.text ++ piece).toList := by
  unfold append Fits
  cases buffer.limit with
  | none => simp
  | some bytes =>
    by_cases exceeds : bytes < Text.byteLength (buffer.text ++ piece).toList
    · simp only [if_pos exceeds, true_iff]
      exact fun fits => absurd (fits bytes rfl) (by omega)
    · simp only [if_neg exceeds, Bool.false_eq_true, false_iff, not_not]
      intro limit same
      obtain rfl := Option.some.inj same
      omega

/-- What an append takes away stands before what it keeps, and is nothing exactly if it reports that
nothing went. -/
theorem exists_removed (buffer : Scrollback) (piece : String) :
    ∃ removed, buffer.text ++ piece = removed ++ (buffer.append piece).1.text ∧
      ((buffer.append piece).2 = true ↔ removed ≠ "") := by
  have longest := buffer.longestEnd_append piece
  rw [← String.toList_append] at longest
  obtain ⟨front, split⟩ := longest.ends
  have whole : buffer.text ++ piece = .ofList front ++ (buffer.append piece).1.text := by
    apply String.toList_injective
    rw [← split, String.toList_append, String.toList_ofList]
  refine ⟨.ofList front, whole, ?_⟩
  rw [snd_append]
  constructor
  · intro exceeds empty
    rw [whole, empty, String.empty_append] at exceeds
    exact exceeds longest.fits
  · intro nonempty fits
    -- What fits whole is its own longest end, so nothing stands before it.
    have same := longest.unique (longestEnd_of_fits fits)
    rw [← split] at same
    have nothing : front = [] := List.append_left_eq_self.mp same.symm
    rw [nothing] at nonempty
    exact nonempty rfl

/-- The search for a place to cut a text counts its bytes up from one place to another: it goes on
where no character ends, and stops where one does. -/
inductive Seeks (text : String) : Nat → Nat → Prop
  /-- It stops between two characters, or at either end of the text. -/
  | stop {place : Nat} : String.Pos.Raw.IsValid text ⟨place⟩ → Seeks text place place
  /-- It goes on inside a character. -/
  | next {place cut : Nat} : ¬ String.Pos.Raw.IsValid text ⟨place⟩ →
      Seeks text (place + 1) cut → Seeks text place cut

/-- The search stops at the first place that it can stop at. -/
theorem seeks_of_first {text : String} {start cut : Nat} (ahead : start ≤ cut)
    (boundary : String.Pos.Raw.IsValid text ⟨cut⟩)
    (first : ∀ place, start ≤ place → String.Pos.Raw.IsValid text ⟨place⟩ → cut ≤ place) :
    Seeks text start cut := by
  induction gap : cut - start generalizing start with
  | zero =>
    obtain rfl : start = cut := by omega
    exact .stop boundary
  | succ gap ih =>
    have inside : ¬ String.Pos.Raw.IsValid text ⟨start⟩ := by
      intro early
      have reached := first start (Nat.le_refl start) early
      omega
    refine .next inside (ih (by omega) ?_ (by omega))
    intro place later found
    exact first place (by omega) found

/-- From the first byte that may stay, the search stops behind what is taken away. -/
theorem seeks_removed (buffer : Scrollback) (piece : String) {bytes : Nat}
    (limited : buffer.limit = some bytes) {removed : String}
    (whole : buffer.text ++ piece = removed ++ (buffer.append piece).1.text) :
    Seeks (buffer.text ++ piece) ((buffer.text ++ piece).utf8ByteSize - bytes)
      removed.utf8ByteSize := by
  have longest := buffer.longestEnd_append piece
  rw [← String.toList_append] at longest
  have total := (congrArg String.utf8ByteSize whole).trans (String.utf8ByteSize_append ..)
  have small := longest.fits bytes limited
  rw [Text.byteLength_toList] at small
  apply seeks_of_first
  · omega
  · exact String.Pos.Raw.isValid_iff_exists_append.mpr ⟨removed, _, whole, rfl⟩
  · intro place later found
    obtain ⟨front, ending, split, same⟩ := String.Pos.Raw.isValid_iff_exists_append.mp found
    obtain rfl : place = front.utf8ByteSize := congrArg String.Pos.Raw.byteIdx same
    have parts := (congrArg String.utf8ByteSize split).trans (String.utf8ByteSize_append ..)
    -- The end behind that place fits, so it lies within the one that is kept.
    have ends : ending.toList <:+ (buffer.text ++ piece).toList := by
      rw [split, String.toList_append]
      exact List.suffix_append _ _
    have fits : Fits buffer.limit ending.toList := by
      intro limit same
      obtain rfl := Option.some.inj (limited.symm.trans same)
      rw [Text.byteLength_toList]
      omega
    have shorter := Text.byteLength_le_of_suffix (longest.longest _ ends fits)
    rw [Text.byteLength_toList, Text.byteLength_toList] at shorter
    omega

/-- Output that texts were appended to one by one is the longest end of their whole that fits, and
the same as if that whole had been appended at once. Every append reports whether it took something
away. To cut, it searches from the first byte that may stay, and the search stops within the text,
behind what is taken away. -/
theorem scrollback_keeps_longest_end (limit : Option Nat) (pieces : List String) :
    let buffer := appendAll { limit } pieces
    LongestEnd limit (String.join pieces).toList buffer.text.toList ∧
    buffer = (append { limit } (String.join pieces)).1 ∧
    ∀ piece, ∃ removed, buffer.text ++ piece = removed ++ (buffer.append piece).1.text ∧
      ((buffer.append piece).2 = true ↔ removed ≠ "") ∧
      ∀ bytes, limit = some bytes → bytes < (buffer.text ++ piece).utf8ByteSize →
        Seeks (buffer.text ++ piece) ((buffer.text ++ piece).utf8ByteSize - bytes)
          removed.utf8ByteSize ∧
        removed.utf8ByteSize ≤ (buffer.text ++ piece).utf8ByteSize := by
  intro buffer
  have kept := longestEnd_history limit pieces
  rw [← String.toList_join] at kept
  have bounded : buffer.limit = limit := limit_appendAll { limit } pieces
  refine ⟨kept, ?_, ?_⟩
  · have once : LongestEnd limit (String.join pieces).toList
        (append { limit } (String.join pieces)).1.text.toList :=
      longestEnd_append { limit } (String.join pieces)
    have same := String.toList_injective (kept.unique once)
    have limits := bounded.trans (limit_append { limit } (String.join pieces)).symm
    calc buffer = ⟨buffer.text, buffer.limit⟩ := rfl
      _ = (append { limit } (String.join pieces)).1 := by rw [same, limits]
  · intro piece
    obtain ⟨removed, whole, reported⟩ := buffer.exists_removed piece
    refine ⟨removed, whole, reported, fun bytes limited _ => ⟨?_, ?_⟩⟩
    · exact buffer.seeks_removed piece (bounded.trans limited) whole
    · rw [whole, String.utf8ByteSize_append]
      omega

/-- Three bytes stay of five, of a letter and two characters of two bytes each: the search begins
inside the first of these, and stops behind it. -/
theorem scrollback_keeps_longest_end_inside :
    let buffer := appendAll { limit := some 3 } ["aé"]
    3 < (buffer.text ++ "é").utf8ByteSize ∧ (buffer.append "é").1.text = "é" ∧
      ∃ removed, buffer.text ++ "é" = removed ++ (buffer.append "é").1.text ∧
        Seeks (buffer.text ++ "é") 2 removed.utf8ByteSize := by
  intro buffer
  have exceeds : 3 < (buffer.text ++ "é").utf8ByteSize := by decide
  have kept : (buffer.append "é").1.text = "é" := by decide
  obtain ⟨-, -, appended⟩ := scrollback_keeps_longest_end (some 3) ["aé"]
  obtain ⟨removed, whole, -, cut⟩ := appended "é"
  unfold buffer at exceeds kept ⊢
  exact ⟨exceeds, kept, removed, whole, (cut 3 rfl exceeds).1⟩

end Scrollback

end Embed
