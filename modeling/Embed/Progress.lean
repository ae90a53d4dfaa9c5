import Embed.Decimal
import Embed.Text
/-!
# Progress of a load

How far a load has come is observed in three ways: as byte counts, as a status line that has such
counts in it, and as the number of dependencies outstanding.
-/

namespace Embed

/-! ## Observations

One observation of how far a load has come, and the percentage it amounts to. Counts are doubles,
because pages and status lines hand them over as such, and may be anything a double can be; the
percentage is always a number from 0 to 100.
-/

/-- An observation of a load. -/
structure Sample where
  /-- The bytes loaded so far. -/
  loaded : Option Float := none
  /-- The bytes to load. -/
  total : Option Float := none
  /-- The dependencies outstanding. -/
  dependencies : Option UInt32 := none

/-- An observation of byte counts. -/
def Sample.bytes (loaded total : Float) : Sample :=
  { loaded := some loaded, total := some total }

/-- An observation from a progress event, whose counts mean nothing unless it says so. -/
def Sample.ofEvent (computable : Bool) (loaded total : Float) : Sample :=
  if computable then .bytes loaded total else {}

/-- An observation of outstanding dependencies alone. -/
def Sample.ofDependencies (remaining : UInt32) : Sample :=
  { dependencies := some remaining }

/-- The percentage of a load that is done, or of which nothing is known. -/
def completePercent : Float := 100.0

/-- A double brought between 0 and 100. -/
def clampPercent (x : Float) : Float :=
  if x < 0.0 then 0.0 else if 100.0 < x then 100.0 else x

/-- The percentage of an observation. Where no share can be worked out it counts as complete, so
that a bar never looks stuck. -/
def Sample.percent (sample : Sample) : Float :=
  match sample.loaded, sample.total with
  | some loaded, some total =>
    if 0.0 < total then
      let share := 100.0 * loaded / total
      if share.isNaN then completePercent else clampPercent share
    else completePercent
  | _, _ => completePercent

/-! ## Progress in a status line

A runtime reports progress as free text that ends in a group such as `(120/4096)`. The group that
counts is the one at the last opening parenthesis.
-/

/-- A number with blanks around it. -/
def paddedNumber? (text : List Char) : Option Float :=
  Decimal.number? (Text.trim text)

/-- The observation that a status line reports, if it reports one. -/
def statusSample? (line : String) : Option Sample := do
  let opened ← Text.afterLast? '(' line.toList
  let (group, _) ← Text.splitFirst? ')' opened
  let (loaded, total) ← Text.splitFirst? '/' group
  let loaded ← paddedNumber? loaded
  let total ← paddedNumber? total
  return .bytes loaded total

/-! ## Outstanding dependencies

A runtime only says how many dependencies are outstanding. Their total is the largest number it ever
named.
-/

/-- The dependencies of a load, as far as they have been named. -/
structure Dependencies where
  /-- The most that were ever outstanding. -/
  total : UInt32 := 0
  /-- Those outstanding now. -/
  remaining : UInt32 := 0
  deriving DecidableEq, Repr

/-- The dependencies after a runtime named the number outstanding. -/
def Dependencies.update (deps : Dependencies) (remaining : UInt32) : Dependencies :=
  { total := max deps.total remaining, remaining }

/-- Whether nothing is outstanding. -/
def Dependencies.isResolved (deps : Dependencies) : Bool :=
  deps.remaining == 0

/-- The status line for the dependencies. -/
def Dependencies.status (deps : Dependencies) : String :=
  if deps.remaining = 0 then "All downloads complete."
  else
    "Preparing... (" ++ Nat.repr (deps.total - deps.remaining).toNat ++ "/" ++
      Nat.repr deps.total.toNat ++ ")"

end Embed
