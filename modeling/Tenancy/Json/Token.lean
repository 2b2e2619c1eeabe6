import Tenancy.Json.Document
import Tenancy.Text.Utf8

/-!
# String and number tokens

A token is cut out of the text first and judged afterwards. A string is a list of pieces up to its
closing quote; joining the pieces pairs up escaped surrogates. A number is its sign, whole part,
fraction and exponent.
-/

namespace Tenancy.Json

/-- A part of a string token: a character, an escaped code unit, or bytes that spell nothing. -/
inductive Piece where
  | char (c : Char)
  | unit (n : Nat)
  | stray
  deriving Repr, DecidableEq

/-- What ends a string token. -/
inductive Stop where
  | quote
  | finish
  | control
  | badEscape
  | badHex
  deriving Repr, DecidableEq

/-- What is wrong with a string that ends so. -/
def Stop.flaw? : Stop → Option Flaw
  | .quote => none
  | .finish => some .endInString
  | .control => some .controlInString
  | .badEscape | .badHex => some .badEscape

/-- The value of a hexadecimal digit. -/
def hexValue? : Glyph → Option Nat
  | some c =>
    if c.isDigit then some (c.toNat - 48)
    else if 'a' ≤ c ∧ c ≤ 'f' then some (c.toNat - 87)
    else if 'A' ≤ c ∧ c ≤ 'F' then some (c.toNat - 55)
    else none
  | none => none

/-- The code unit that four hexadecimal digits spell. -/
def hexUnit? (a b c d : Glyph) : Option Nat :=
  match hexValue? a, hexValue? b, hexValue? c, hexValue? d with
  | some a, some b, some c, some d => some (((a * 16 + b) * 16 + c) * 16 + d)
  | _, _, _, _ => none

/-- The character that a one-letter escape stands for. -/
def shortEscape? (c : Char) : Option Char :=
  match c with
  | '"' => some '"'
  | '\\' => some '\\'
  | '/' => some '/'
  | 'b' => some (Char.ofNat 8)
  | 'f' => some (Char.ofNat 12)
  | 'n' => some '\n'
  | 'r' => some '\r'
  | 't' => some '\t'
  | _ => none

/-- The number of bytes behind some glyphs. -/
def byteCount (gs : List Glyph) : Nat :=
  gs.foldl (fun n g => n + (g.map Char.utf8Size).getD 1) 0

/-- The pieces of a string after its opening quote, what ends it, and the text behind it. -/
def pieces : List Glyph → List Piece × Stop × List Glyph
  | [] => ([], .finish, [])
  | none :: rest =>
    let (ps, stop, more) := pieces rest
    (.stray :: ps, stop, more)
  | some '"' :: rest => ([], .quote, rest)
  | some '\\' :: [] => ([], .finish, [])
  | some '\\' :: some 'u' :: a :: b :: c :: d :: rest =>
    match hexUnit? a b c d with
    | some n =>
      let (ps, stop, more) := pieces rest
      (.unit n :: ps, stop, more)
    | none => ([], .badHex, rest)
  | some '\\' :: some 'u' :: rest =>
    if byteCount rest < 4 then ([], .finish, []) else ([], .badHex, rest)
  | some '\\' :: g :: rest =>
    match g.bind shortEscape? with
    | some c =>
      let (ps, stop, more) := pieces rest
      (.char c :: ps, stop, more)
    | none => ([], .badEscape, rest)
  | some c :: rest =>
    if c.toNat < 32 then ([], .control, rest)
    else
      let (ps, stop, more) := pieces rest
      (.char c :: ps, stop, more)

/-- Whether a code unit begins a surrogate pair. -/
def isLeading (n : Nat) : Bool := 0xD800 ≤ n && n < 0xDC00

/-- Whether a code unit ends a surrogate pair. -/
def isTrailing (n : Nat) : Bool := 0xDC00 ≤ n && n < 0xE000

/-- What is wrong with a leading surrogate at the end of the pieces. -/
def Stop.afterLeading : Stop → Flaw
  | .finish => .endInString
  | .badHex => .badEscape
  | _ => .endOfHexEscape

/-- The characters of a string, or the first flaw among its pieces. -/
def joinPieces (stop : Stop) : List Piece → Except Flaw (List Char)
  | [] => match stop.flaw? with
    | some f => .error f
    | none => .ok []
  | .char c :: rest => (joinPieces stop rest).map (c :: ·)
  | .stray :: rest => joinPieces stop rest
  | .unit n :: rest =>
    if isTrailing n then .error .loneSurrogate
    else if isLeading n then
      match rest with
      | .unit m :: more =>
        if isTrailing m then
          (joinPieces stop more).map
            (Char.ofNat (0x10000 + (n - 0xD800) * 0x400 + (m - 0xDC00)) :: ·)
        else .error .loneSurrogate
      | [] => .error stop.afterLeading
      | _ => .error .endOfHexEscape
    else (joinPieces stop rest).map (Char.ofNat n :: ·)

/-- A string token after its opening quote, and the text behind it. -/
def stringToken (gs : List Glyph) : Lexeme String × List Glyph :=
  let (ps, stop, rest) := pieces gs
  match joinPieces stop ps with
  | .error f => (.flawed f stop.flaw?, rest)
  | .ok cs => if ps.contains .stray then (.flawed .badCodePoint none, rest)
              else (.good (String.ofList cs), rest)

/-- A decimal digit. -/
def isDigit : Glyph → Bool
  | some c => c.isDigit
  | none => false

/-- The digits at the front of a text as numbers, and the text behind them. -/
def digits (gs : List Glyph) : List Nat × List Glyph :=
  ((gs.takeWhile isDigit).map fun g => (g.map fun c => c.toNat - 48).getD 0, gs.dropWhile isDigit)

/-- The greatest significand that is kept exactly; further digits only move the point. -/
def significandLimit : Nat := UInt64.size - 1

/-- Takes up digits while they fit; returns the significand and how many were taken. -/
def absorb : Nat → Nat → List Nat → Nat × Nat
  | n, taken, [] => (n, taken)
  | n, taken, d :: rest =>
    if n * 10 + d ≤ significandLimit then absorb (n * 10 + d) (taken + 1) rest else (n, taken)

/-- Ten to a power that a float can hold. -/
def powerOfTen (e : Nat) : Float := Float.ofScientific 1 false e

/-- Scales a float by a power of ten in steps of at most 308, or `none` if it overflows. -/
def scaleFloat (f : Float) (e : Int) : Nat → Option Float
  | 0 => some f
  | fuel + 1 =>
    if e.natAbs ≤ 308 then
      if 0 ≤ e then
        let g := f * powerOfTen e.natAbs
        if g.isInf then none else some g
      else some (f / powerOfTen e.natAbs)
    else if f == 0 then some f
    else if 0 ≤ e then none
    else scaleFloat (f / powerOfTen 308) (e + 308) fuel

/-- A float from its sign, significand and exponent. -/
def realToken (negative : Bool) (significand : Nat) (e : Int) : Lexeme Number :=
  match scaleFloat (UInt64.ofNat significand).toFloat e (e.natAbs / 308 + 2) with
  | some f => .good (.real (if negative then -f else f).toBits)
  | none => .flawed .numberTooLarge none

/-- A whole number; one that has no place among the 64-bit integers becomes a float, and so does
minus zero. -/
def wholeToken (negative : Bool) (n : Nat) : Lexeme Number :=
  if negative then
    if n = 0 ∨ UInt64.size / 2 < n then realToken true n 0 else .good (.int (-(n : Int)))
  else .good (.int n)

/-- The greatest exponent that is taken literally. -/
def exponentLimit : Nat := 2147483647

/-- A damaged number: a reader tells the end of the text from a wrong character. -/
def badNumber (rest : List Glyph) : Lexeme Number × List Glyph :=
  (.flawed (if rest.isEmpty then .endInValue else .badNumber) (some .badNumber), rest)

/-- A number whose parts are known. -/
def numberValue (negative : Bool) (whole fraction : List Nat) (isWhole : Bool)
    (exponent : Option (Bool × List Nat)) : Lexeme Number :=
  let (n, taken) := absorb 0 0 whole
  let dropped := whole.length - taken
  if isWhole && dropped = 0 && exponent.isNone then wholeToken negative n
  else
    let (m, used) := absorb n 0 fraction
    let scale : Int := (dropped : Int) - used
    match exponent with
    | none => realToken negative m scale
    | some (down, ds) =>
      let e := ds.foldl (fun n d => n * 10 + d) 0
      if exponentLimit < e then
        if m ≠ 0 ∧ !down then .flawed .numberTooLarge none
        else .good (.real (if negative then (-0.0 : Float) else 0.0).toBits)
      else realToken negative m (scale + if down then -(e : Int) else e)

/-- The exponent of a number, if one follows: whether it is negative, and its digits. -/
def exponentPart (gs : List Glyph) : Option (Bool × List Nat) × List Glyph :=
  match gs with
  | some c :: rest =>
    if c = 'e' ∨ c = 'E' then
      match rest with
      | some '+' :: more => let (ds, tail) := digits more; (some (false, ds), tail)
      | some '-' :: more => let (ds, tail) := digits more; (some (true, ds), tail)
      | _ => let (ds, tail) := digits rest; (some (false, ds), tail)
    else (none, gs)
  | _ => (none, gs)

/-- A number after its sign, with the text behind it. -/
def unsignedToken (negative : Bool) (gs : List Glyph) : Lexeme Number × List Glyph :=
  let (whole, afterWhole) := digits gs
  match whole with
  | [] => badNumber gs
  | 0 :: _ :: _ => (.flawed .badNumber (some .badNumber), afterWhole)
  | _ =>
    let (fraction?, afterFraction) :=
      match afterWhole with
      | some '.' :: rest => let (ds, tail) := digits rest; (some ds, tail)
      | _ => (none, afterWhole)
    if fraction? = some [] then badNumber afterFraction
    else
      let (exponent, rest) := exponentPart afterFraction
      match exponent with
      | some (_, []) => badNumber rest
      | _ => (numberValue negative whole (fraction?.getD []) fraction?.isNone exponent, rest)

/-- A number token and the text behind it. -/
def numberToken : List Glyph → Lexeme Number × List Glyph
  | some '-' :: rest => unsignedToken true rest
  | gs => unsignedToken false gs

end Tenancy.Json
