/-!
# Tables of characters

What a standard says of every character is kept as a text of runs: a capital letter names what holds
of the next characters, and the number behind it, in base 36, how many they are; no number stands
for one. Further numbers, each behind a point, belong to the run.
-/

namespace Tenancy.Unicode

/-- A run of characters of which the same holds. -/
structure Run where
  kind : Char
  length : Nat
  numbers : List Nat
  deriving Repr, DecidableEq

/-- The value of a digit below 36. -/
def digitValue (c : Char) : Nat := if c.isDigit then c.toNat - 48 else c.toNat - 87

/-- The number that digits in base 36 spell. -/
def numberOf (digits : List Char) : Nat := digits.foldl (fun n c => n * 36 + digitValue c) 0

/-- A run from its letter and what stands behind it. -/
def Run.ofText (kind : Char) (text : List Char) : Run :=
  let parts := (text.splitOn '.').map numberOf
  ⟨kind, max 1 (parts.headD 1), parts.drop 1⟩

/-- The runs that a text describes. -/
def runsOf (text : List Char) : List Run :=
  (text.foldr (fun c (tail, runs) =>
    if c.isUpper then ([], Run.ofText c tail :: runs) else (c :: tail, runs)) ([], [])).2

/-- The runs in order, each with the code point where it starts. -/
def placed : Nat → List Run → List (Nat × Run)
  | _, [] => []
  | start, r :: rest => (start, r) :: placed (start + r.length) rest

/-- A table of runs. -/
structure Table where
  entries : Array (Nat × Run)

namespace Table

/-- The table that a text describes. -/
def ofText (text : String) : Table := ⟨(placed 0 (runsOf text.toList)).toArray⟩

/-- Where the run at a position starts. -/
def startAt (t : Table) (i : Nat) : Nat := (t.entries[i]?.map (·.1)).getD 0

/-- The last position from `low` on, and below `high`, whose run starts at `n` or before. -/
def positionOf (t : Table) (n low high : Nat) : Nat :=
  if low + 1 < high then
    let middle := (low + high) / 2
    if t.startAt middle ≤ n then positionOf t n middle high else positionOf t n low middle
  else low
termination_by high - low
decreasing_by all_goals omega

/-- The run that a character is in, and where it starts. -/
def find? (t : Table) (c : Char) : Option (Nat × Run) :=
  t.entries[t.positionOf c.toNat 0 t.entries.size]?

/-- The letter of the run that a character is in. -/
def kindOf (t : Table) (c : Char) : Char := ((t.find? c).map (·.2.kind)).getD 'O'

end Table

end Tenancy.Unicode
