/-!
# Decimal numerals

A numeral for a real number has digits, a point somewhere among them or none, and perhaps an
exponent. What it stands for may be beyond all floats, however many digits they have.
-/

namespace Tenancy.Decimal

/-- The number `digits · 10 ^ scale`, as it is spelled out. -/
structure Numeral where
  digits : Nat
  scale : Int
  deriving Repr, DecidableEq

namespace Numeral

/-- The number that decimal digits spell. -/
def valueOf (cs : List Char) : Nat := cs.foldl (fun n c => n * 10 + (c.toNat - 48)) 0

/-- The exponent behind its letter, up to the end of a text. -/
def exponent? : List Char → Option Int
  | [] => some 0
  | e :: rest =>
    let (down, ds) := match rest with
      | '-' :: more => (true, more)
      | '+' :: more => (false, more)
      | more => (false, more)
    if (e = 'e' || e = 'E') && !ds.isEmpty && ds.all Char.isDigit then
      some (if down then -(valueOf ds : Int) else valueOf ds)
    else none

/-- Reads a numeral without a sign. -/
def unsigned? (cs : List Char) : Option Numeral :=
  let whole := cs.takeWhile Char.isDigit
  let behind := cs.dropWhile Char.isDigit
  let (fraction, tail) := match behind with
    | '.' :: rest => (rest.takeWhile Char.isDigit, rest.dropWhile Char.isDigit)
    | _ => ([], behind)
  if whole.isEmpty && fraction.isEmpty then none
  else (exponent? tail).map fun e => ⟨valueOf (whole ++ fraction), e - fraction.length⟩

/-- Reads a numeral, with or without a sign, which is left out of it. -/
def ofText? : List Char → Option Numeral
  | '+' :: rest => unsigned? rest
  | '-' :: rest => unsigned? rest
  | cs => unsigned? cs

/-- The least number that no float is near to. -/
def firstBeyond : Nat := Nat.pow 2 1024 - Nat.pow 2 970

/-- Whether some float stands for the number. -/
def isFinite (n : Numeral) : Bool :=
  let lead : Int := (Nat.toDigits 10 n.digits).length + n.scale
  if n.digits = 0 || lead < 300 then true
  else if 320 < lead then false
  else n.digits * Nat.pow 10 n.scale.toNat < firstBeyond * Nat.pow 10 (-n.scale).toNat

end Numeral

end Tenancy.Decimal
