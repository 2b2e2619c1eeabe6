import Tenancy.Text.Percent

/-!
# Form encoding

A list of fields as `name=value` pairs joined by `&`. Letters, digits and `*`, `-`, `.`, `_` stand
for themselves, a space is a plus sign, and every other byte is escaped.
-/

namespace Tenancy.Form

/-- The characters that need no escape. -/
def isPlain (c : Char) : Bool :=
  c.isAlphanum || c == '*' || c == '-' || c == '.' || c == '_'

/-- One character of a name or value. -/
def encodeChar (c : Char) : List Char :=
  if c = ' ' then ['+'] else if isPlain c then [c] else Percent.escapeChar c

/-- A name or a value. -/
def encodeText (s : String) : String := String.ofList (s.toList.flatMap encodeChar)

/-- One field. -/
def encodeField (field : String × String) : String :=
  encodeText field.1 ++ "=" ++ encodeText field.2

/-- All fields, in order. -/
def encode (fields : List (String × String)) : String :=
  "&".intercalate (fields.map encodeField)

/-- A name or value as it is read back: a plus sign is a space. -/
def decodeText (bytes : Bytes) : Bytes :=
  Percent.decode (bytes.map fun b => if b = 43 then 32 else b)

end Tenancy.Form
