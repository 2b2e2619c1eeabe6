/-!
# Punycode

A label with characters beyond ASCII is written in letters, digits and hyphens: its ASCII characters
first, then the others as a list of steps. A step counts how many (code point, position) pairs lie
between one insertion and the next; it is written in a number system whose bounds adapt to the sizes
seen so far.
-/

namespace Tenancy.Punycode

/-- The digit for a value below 36. -/
def digit (n : Nat) : Char := if n < 26 then Char.ofNat (97 + n) else Char.ofNat (22 + n)

/-- The value of a digit. -/
def value? (c : Char) : Option Nat :=
  if c.isLower then some (c.toNat - 97)
  else if c.isUpper then some (c.toNat - 65)
  else if c.isDigit then some (c.toNat - 22)
  else none

/-- The bound of the digit at position `k` under a bias. -/
def threshold (k bias : Nat) : Nat := min 26 (max 1 (k - bias))

/-- Halves down a step until the bias can be read off. -/
def settle : Nat → Nat → Nat → Nat
  | 0, _, k => k
  | fuel + 1, delta, k =>
    if 455 < delta then settle fuel (delta / 35) (k + 36) else k + 36 * delta / (delta + 38)

/-- The bias after a step over `count` characters. -/
def adapt (delta count : Nat) (first : Bool) : Nat :=
  let d := if first then delta / 700 else delta / 2
  settle 64 (d + d / count) 0

/-- A step in digits. -/
def step (bias : Nat) : Nat → Nat → Nat → List Char
  | 0, _, _ => []
  | fuel + 1, k, q =>
    let t := threshold k bias
    if q < t then [digit q]
    else digit (t + (q - t) % (36 - t)) :: step bias fuel (k + 36) ((q - t) / (36 - t))

/-- How far an encoding has come. -/
structure State where
  delta : Nat
  bias : Nat
  handled : Nat
  out : List Char

/-- Inserts every occurrence of one code point. -/
def insertAll (basic m : Nat) (input : List Nat) (s : State) : State :=
  input.foldl (fun s c =>
    if c < m then { s with delta := s.delta + 1 }
    else if c = m then
      { delta := 0
        bias := adapt s.delta (s.handled + 1) (s.handled = basic)
        handled := s.handled + 1
        out := s.out ++ step s.bias 64 36 s.delta }
    else s) s

/-- Inserts the code points of a list in rising order, starting behind `n`. -/
def insertFrom (basic : Nat) (input : List Nat) : Nat → State → List Nat → State
  | _, s, [] => s
  | n, s, m :: rest =>
    let s := insertAll basic m input { s with delta := s.delta + (m - n) * (s.handled + 1) }
    insertFrom basic input (m + 1) { s with delta := s.delta + 1 } rest

/-- The punycode form of a label. -/
def encode (label : List Char) : List Char :=
  let basic := label.filter fun c => c.toNat < 128
  let others := ((label.map Char.toNat).filter (128 ≤ ·)).eraseDups.mergeSort
  let start := if basic.isEmpty then [] else basic ++ ['-']
  (insertFrom basic.length (label.map Char.toNat) 128 ⟨0, 72, basic.length, start⟩ others).out

/-- Reads one step: its value and the digits behind it. -/
def readStep (bias : Nat) : Nat → Nat → Nat → List Char → Option (Nat × List Char)
  | _, _, _, [] => none
  | i, w, k, c :: rest => do
    let d ← value? c
    let t := threshold k bias
    if d < t then return (i + d * w, rest)
    else readStep bias (i + d * w) (w * (36 - t)) (k + 36) rest

/-- Inserts the code points that the digits describe. -/
def insertSteps : Nat → Nat → Nat → Nat → List Nat → List Char → Option (List Nat)
  | _, _, _, _, out, [] => some out
  | 0, _, _, _, _, _ => none
  | fuel + 1, n, i, bias, out, digits => do
    let (j, rest) ← readStep bias i 1 36 digits
    let count := out.length + 1
    let m := n + j / count
    if 0x10FFFF < m then none
    else
      let position := j % count
      insertSteps fuel m (position + 1) (adapt (j - i) count (i = 0 && n = 128))
        (out.take position ++ m :: out.drop position) rest

/-- The label that a punycode form stands for. -/
def decode (text : List Char) : Option (List Char) :=
  let tail := (text.reverse.takeWhile (· ≠ '-')).reverse
  let head := (text.take (text.length - tail.length)).dropLast
  (insertSteps text.length 128 0 72 (head.map Char.toNat) tail).map (·.map Char.ofNat)

end Tenancy.Punycode
