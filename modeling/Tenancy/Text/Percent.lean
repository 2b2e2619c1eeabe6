import Tenancy.Text.Utf8

/-!
# Percent encoding

A byte that may not stand in some part of a URL is written as a percent sign and two upper-case
hexadecimal digits. Which bytes those are depends on the part, so the set is a parameter. Decoding
replaces well-formed escapes and keeps every other byte.
-/

namespace Tenancy.Percent

/-- A hexadecimal digit, in upper case. -/
def digit (n : Nat) : Char :=
  if n < 10 then Char.ofNat (48 + n) else Char.ofNat (55 + n)

/-- The value of a hexadecimal digit in either case. -/
def value? (c : Char) : Option Nat :=
  if c.isDigit then some (c.toNat - 48)
  else if 'a' ≤ c ∧ c ≤ 'f' then some (c.toNat - 87)
  else if 'A' ≤ c ∧ c ≤ 'F' then some (c.toNat - 55)
  else none

/-- A byte as a percent sign and two digits. -/
def escape (b : UInt8) : List Char :=
  ['%', digit (b.toNat / 16), digit (b.toNat % 16)]

/-- The escaped form of a character, byte by byte. -/
def escapeChar (c : Char) : List Char := (String.utf8EncodeChar c).flatMap escape

/-- Escapes the characters of a set; those beyond ASCII always belong to it. -/
def encodeChars (reserved : Char → Bool) (cs : List Char) : List Char :=
  cs.flatMap fun c => if c.toNat ≥ 0x80 || reserved c then escapeChar c else [c]

/-- The text with the characters of a set escaped. -/
def encode (reserved : Char → Bool) (s : String) : String :=
  String.ofList (encodeChars reserved s.toList)

/-- The two digits after a percent sign as a byte. -/
def pair? (hi lo : UInt8) : Option UInt8 :=
  match value? (Char.ofNat hi.toNat), value? (Char.ofNat lo.toNat) with
  | some h, some l => some (UInt8.ofNat (h * 16 + l))
  | _, _ => none

/-- The bytes that remain once the escapes are resolved. -/
def decode : Bytes → Bytes
  | [] => []
  | b :: rest =>
    if b = 37 then
      match rest with
      | hi :: lo :: more =>
        match pair? hi lo with
        | some v => v :: decode more
        | none => b :: decode (hi :: lo :: more)
      | short => b :: decode short
    else b :: decode rest

end Tenancy.Percent
