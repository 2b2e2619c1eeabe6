/-!
# The fewest digits that read back

Every finite float stands for a rational number `m · 2 ^ q` and for the interval of reals that round
to it. Its shortest decimal is the one with the fewest digits inside that interval, and of those the
nearest to the number itself. All of it is exact arithmetic on natural numbers.
-/

namespace Tenancy.Decimal

/-- A decimal `digits · 10 ^ scale`. -/
structure Scaled where
  digits : Nat
  scale : Int
  deriving Repr, DecidableEq

/-- A positive float as a quarter-step count: the number is `steps / 2 ^ down · 2 ^ up`, and reals
round to it from `below` steps under it to two steps above it, the ends included for an `even`
significand. -/
structure Window where
  steps : Nat
  below : Nat
  up : Nat
  down : Nat
  even : Bool
  deriving Repr, DecidableEq

/-- The window of a positive finite float given by its bits. -/
def Window.ofBits (bits : UInt64) : Window :=
  let n := bits.toNat
  let exponent := n / Nat.pow 2 52 % Nat.pow 2 11
  let fraction := n % Nat.pow 2 52
  let m := if exponent = 0 then fraction else fraction + Nat.pow 2 52
  -- The number is `m · 2 ^ (e - 1075)`, hence `4 m` steps of `2 ^ (e - 1077)`.
  let e := max exponent 1
  { steps := 4 * m
    below := if fraction = 0 && exponent > 1 then 1 else 2
    up := e - 1077
    down := 1077 - e
    even := m % 2 = 0 }

/-- The number of decimal digits of a natural number. -/
def digitCount (n : Nat) : Nat := (Nat.toDigits 10 n).length

/-- The least `j ≥ start` with `den ≤ num · 10 ^ j`, looked for `fuel` times. -/
def firstScale (num den : Nat) : Nat → Nat → Nat
  | 0, start => start
  | fuel + 1, start =>
    if den ≤ num * Nat.pow 10 start then start else firstScale num den fuel (start + 1)

/-- The exponent of the leading digit of `num / den`. -/
def leadingExponent (num den : Nat) : Int :=
  if den ≤ num then (digitCount (num / den) : Int) - 1
  else -(firstScale num den 400 1 : Int)

/-- The decimal on the grid of `10 ^ scale` that lies in the window, the nearer one if both
neighbours of the number do, the even one on a tie. -/
def Window.onGrid? (w : Window) (scale : Int) : Option Nat :=
  let unit := Nat.pow 10 scale.toNat * Nat.pow 2 w.down
  let grain := Nat.pow 10 (-scale).toNat * Nat.pow 2 w.up
  let x := w.steps * grain
  let inside (d : Nat) : Bool :=
    let y := d * unit
    if w.even then (x ≤ y + w.below * grain) && (y ≤ x + 2 * grain)
    else (x < y + w.below * grain) && (y < x + 2 * grain)
  let d := x / unit
  let rest := x % unit
  match decide (0 < d) && inside d, inside (d + 1) with
  | true, true =>
    if 2 * rest < unit then some d
    else if unit < 2 * rest then some (d + 1)
    else if d % 2 = 0 then some d else some (d + 1)
  | true, false => some d
  | false, true => some (d + 1)
  | false, false => none

/-- The first grid with a hit, from `n` digits on. -/
def Window.search (w : Window) (lead : Int) : Nat → Nat → Scaled
  | 0, n => ⟨0, n⟩
  | fuel + 1, n =>
    let scale := lead + 1 - n
    match w.onGrid? scale with
    | some d => ⟨d, scale⟩
    | none => w.search lead fuel (n + 1)

/-- The shortest decimal of a positive finite float given by its bits. -/
def shortest (bits : UInt64) : Scaled :=
  let w := Window.ofBits bits
  w.search (leadingExponent (w.steps * Nat.pow 2 w.up) (Nat.pow 2 w.down)) 20 1

/-- How a decimal is laid out: positionally while the exponent of its leading digit lies between the
two bounds, in exponential form outside them. -/
structure Layout where
  least : Int
  greatest : Int
  deriving Repr, DecidableEq

/-- Digits without trailing zeros. -/
def significant (ds : List Char) : List Char := (ds.reverse.dropWhile (· == '0')).reverse

/-- The exponent of the exponential form: always a sign, and no more digits than it has. -/
def exponentText (e : Int) : List Char :=
  (if e < 0 then '-' else '+') :: Nat.toDigits 10 e.natAbs

/-- A positive decimal as text; positional text always has a fractional part. -/
def Layout.write (style : Layout) (d : Scaled) : List Char :=
  let all := Nat.toDigits 10 d.digits
  let lead : Int := (all.length : Int) - 1 + d.scale
  let ds := significant all
  if lead < style.least ∨ style.greatest < lead then
    let fraction := if ds.length ≤ 1 then [] else '.' :: ds.drop 1
    ds.take 1 ++ fraction ++ 'e' :: exponentText lead
  else if lead < 0 then
    '0' :: '.' :: List.replicate (-lead - 1).toNat '0' ++ ds
  else
    let width := lead.toNat + 1
    let whole := ds.take width ++ List.replicate (width - ds.length) '0'
    let fraction := ds.drop width
    whole ++ '.' :: (if fraction.isEmpty then ['0'] else fraction)

/-- A finite float given by its bits as text. -/
def Layout.writeFloat (style : Layout) (bits : UInt64) : String :=
  let negative := bits.toNat / Nat.pow 2 63 = 1
  let magnitude := UInt64.ofNat (bits.toNat % Nat.pow 2 63)
  let text := if magnitude = 0 then "0.0".toList else style.write (shortest magnitude)
  String.ofList (if negative then '-' :: text else text)

end Tenancy.Decimal
