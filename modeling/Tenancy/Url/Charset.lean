/-!
# What may not stand in a URL

The characters that have to be escaped in each part of a URL. Each set adds to a smaller one;
characters beyond ASCII belong to all of them.
-/

namespace Tenancy.Url

/-- Control characters. -/
def isControl (c : Char) : Bool := c.toNat < 32 || c.toNat = 127

/-- Escaped in fragments. -/
def inFragmentSet (c : Char) : Bool :=
  isControl c || c = ' ' || c = '"' || c = '<' || c = '>' || c.toNat = 0x60

/-- Escaped in queries; a quote only where the scheme is a special one. -/
def inQuerySet (special : Bool) (c : Char) : Bool :=
  isControl c || c = ' ' || c = '"' || c = '#' || c = '<' || c = '>' || (special && c = '\'')

/-- Escaped in paths. -/
def inPathSet (c : Char) : Bool :=
  inFragmentSet c || c = '#' || c = '?' || c.toNat = 0x7B || c.toNat = 0x7D

/-- Escaped in a segment that is added to a path, where slashes and percent signs mean
themselves. -/
def inSegmentSet (special : Bool) (c : Char) : Bool :=
  inPathSet c || c = '/' || c = '%' || (special && c = '\\')

/-- Escaped in user names and passwords. -/
def inUserSet (c : Char) : Bool :=
  inPathSet c || c = '/' || c = ':' || c = ';' || c = '=' || c = '@' || c = '[' || c = '\\'
    || c = ']' || c = '^' || c = '|'

/-- Characters that no host may contain. -/
def forbiddenInHost (c : Char) : Bool :=
  c.toNat = 0 || c = '\t' || c = '\n' || c = '\r' || c = ' ' || c = '#' || c = '/' || c = ':'
    || c = '<' || c = '>' || c = '?' || c = '@' || c = '[' || c = '\\' || c = ']' || c = '^'
    || c = '|'

/-- Characters that no host name may contain. -/
def forbiddenInName (c : Char) : Bool := forbiddenInHost c || isControl c || c = '%'

/-- Characters that are dropped wherever they stand. -/
def isIgnored (c : Char) : Bool := c = '\t' || c = '\n' || c = '\r'

/-- Characters that are cut off both ends. -/
def isTrimmed (c : Char) : Bool := c.toNat ≤ 32

end Tenancy.Url
