/-!
# UTF-8 over byte lists

Text goes over the wire as bytes. `encode` writes every character; `glyphs` reads any bytes at all:
where they spell a character it is `some c`, and every maximal run of bytes that begins a character
and breaks off, or that begins none, is one `none`. A lossy reading shows the replacement character
for each such run.
-/

namespace Tenancy

/-- A body or a piece of one. -/
abbrev Bytes := List UInt8

/-- A character, or `none` for bytes that spell none. -/
abbrev Glyph := Option Char

namespace Utf8

/-- The bytes of a text. -/
def encode (s : String) : Bytes := s.toList.flatMap String.utf8EncodeChar

/-- A character that has begun: how many bytes it still needs, the bounds of the next one, and the
value of those read. -/
structure Pending where
  need : Nat
  least : UInt8
  greatest : UInt8
  bits : Nat
  deriving Repr, DecidableEq

/-- What a first byte says: a character of its own, the beginning of a longer one, or nothing. -/
def begin (b : UInt8) : List Glyph × Option Pending :=
  let n := b.toNat
  if n < 0x80 then ([some (Char.ofNat n)], none)
  else if n < 0xC2 then ([none], none)
  else if n < 0xE0 then ([], some ⟨1, 0x80, 0xBF, n - 0xC0⟩)
  else if n = 0xE0 then ([], some ⟨2, 0xA0, 0xBF, 0⟩)
  else if n = 0xED then ([], some ⟨2, 0x80, 0x9F, 0xD⟩)
  else if n < 0xF0 then ([], some ⟨2, 0x80, 0xBF, n - 0xE0⟩)
  else if n = 0xF0 then ([], some ⟨3, 0x90, 0xBF, 0⟩)
  else if n < 0xF4 then ([], some ⟨3, 0x80, 0xBF, n - 0xF0⟩)
  else if n = 0xF4 then ([], some ⟨3, 0x80, 0x8F, 4⟩)
  else ([none], none)

/-- One byte: the glyphs it completes and the character that is open after it. -/
def step (open? : Option Pending) (b : UInt8) : List Glyph × Option Pending :=
  match open? with
  | none => begin b
  | some p =>
    if p.least ≤ b ∧ b ≤ p.greatest then
      let bits := p.bits * 64 + (b.toNat - 0x80)
      if p.need ≤ 1 then ([some (Char.ofNat bits)], none)
      else ([], some ⟨p.need - 1, 0x80, 0xBF, bits⟩)
    else
      let (found, next) := begin b
      (none :: found, next)

/-- The glyphs of the bytes that follow an open character. -/
def glyphsFrom : Option Pending → Bytes → List Glyph
  | none, [] => []
  | some _, [] => [none]
  | p, b :: rest =>
    let (found, next) := step p b
    found ++ glyphsFrom next rest

/-- The characters that the bytes spell, with `none` where they spell none. -/
def glyphs (bytes : Bytes) : List Glyph := glyphsFrom none bytes

/-- The text of the bytes, with the replacement character where they spell none. -/
def lossy (bytes : Bytes) : String :=
  String.ofList ((glyphs bytes).map fun g => g.getD '\ufffd')

/-- The text of the bytes, if all of them spell characters. -/
def decode? (bytes : Bytes) : Option String :=
  ((glyphs bytes).mapM id).map String.ofList

/-- The size of a text in bytes. -/
def size (s : String) : Nat := s.utf8ByteSize

end Tenancy.Utf8
