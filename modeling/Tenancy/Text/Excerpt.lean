import Tenancy.Unicode.Visible

/-!
# Excerpts

A text is quoted in a message so that everything in it can be seen: quotes and backslashes are
escaped, and characters that leave no mark of their own are shown by their number.
-/

namespace Tenancy.Excerpt

/-- A character of an excerpt. -/
def quoteChar (c : Char) : List Char :=
  if c = '"' then ['\\', '"']
  else if c = '\\' then ['\\', '\\']
  else if c = '\n' then ['\\', 'n']
  else if c = '\r' then ['\\', 'r']
  else if c = '\t' then ['\\', 't']
  else if c.toNat = 0 then ['\\', '0']
  else if !Unicode.isVisible c then
    ['\\', 'u', Char.ofNat 0x7B] ++ Nat.toDigits 16 c.toNat ++ [Char.ofNat 0x7D]
  else [c]

/-- A text as an excerpt. -/
def quote (s : String) : String := String.ofList ('"' :: s.toList.flatMap quoteChar ++ ['"'])

end Tenancy.Excerpt
