import Tenancy.Json.Basic
import Tenancy.Decimal.Shortest

/-!
# Printed JSON

Two layouts: `compact` has no blanks at all, `pretty` puts every item and member on a line of its
own, two blanks deeper than the line that opens its container. Strings escape quotes, backslashes
and control characters only.
-/

namespace Tenancy.Json

/-- Floats are positional from `0.00001` up to sixteen digits before the point. -/
def realLayout : Decimal.Layout := ⟨-5, 15⟩

/-- A number as text. -/
def numberText : Number → String
  | .int n => toString n
  | .real bits => realLayout.writeFloat bits

/-- A hexadecimal digit, in lower case. -/
def hexDigit (n : Nat) : Char :=
  if n < 10 then Char.ofNat (48 + n) else Char.ofNat (87 + n)

/-- A character inside a string. -/
def quoteChar (c : Char) : List Char :=
  if c = '"' then ['\\', '"']
  else if c = '\\' then ['\\', '\\']
  else if c.toNat = 8 then ['\\', 'b']
  else if c.toNat = 9 then ['\\', 't']
  else if c.toNat = 10 then ['\\', 'n']
  else if c.toNat = 12 then ['\\', 'f']
  else if c.toNat = 13 then ['\\', 'r']
  else if c.toNat < 32 then
    ['\\', 'u', '0', '0', hexDigit (c.toNat / 16), hexDigit (c.toNat % 16)]
  else [c]

/-- A string with its quotes. -/
def quote (s : String) : String := String.ofList ('"' :: s.toList.flatMap quoteChar ++ ['"'])

mutual

/-- A value without blanks. -/
def compact : Json → String
  | .null => "null"
  | .bool b => if b then "true" else "false"
  | .num n => numberText n
  | .str s => quote s
  | .arr items => "[" ++ ",".intercalate (compactItems items) ++ "]"
  | .obj members => "\x7b" ++ ",".intercalate (compactMembers members) ++ "\x7d"

/-- The items of a list. -/
def compactItems : List Json → List String
  | [] => []
  | v :: rest => compact v :: compactItems rest

/-- The members of an object. -/
def compactMembers : List (String × Json) → List String
  | [] => []
  | (k, v) :: rest => (quote k ++ ":" ++ compact v) :: compactMembers rest

end

/-- A container over several lines: brackets, and the parts between them one step deeper. -/
def block (indent left right : String) (parts : List String) : String :=
  if parts.isEmpty then left ++ right
  else
    let deeper := "\n" ++ indent ++ "  "
    left ++ deeper ++ ("," ++ deeper).intercalate parts ++ "\n" ++ indent ++ right

mutual

/-- A value over several lines, in a line that begins with `indent`. -/
def prettyAt (indent : String) : Json → String
  | .null => "null"
  | .bool b => if b then "true" else "false"
  | .num n => numberText n
  | .str s => quote s
  | .arr items => block indent "[" "]" (prettyItems (indent ++ "  ") items)
  | .obj members => block indent "\x7b" "\x7d" (prettyMembers (indent ++ "  ") members)

/-- The items of a list. -/
def prettyItems (indent : String) : List Json → List String
  | [] => []
  | v :: rest => prettyAt indent v :: prettyItems indent rest

/-- The members of an object. -/
def prettyMembers (indent : String) : List (String × Json) → List String
  | [] => []
  | (k, v) :: rest => (quote k ++ ": " ++ prettyAt indent v) :: prettyMembers indent rest

end

/-- A value over several lines. -/
def pretty (v : Json) : String := prettyAt "" v

end Tenancy.Json
