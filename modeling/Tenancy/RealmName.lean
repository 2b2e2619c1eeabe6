/-!
# Realm names

A realm carries the name of its tenant. The name ends up in paths of the admin interface and in
client ids, so it is kept to lower-case letters, digits, underscores and hyphens, begins with a
letter, and has at most 63 characters. All admitted characters take one byte, which is why the
limit can be checked on the byte size.
-/

namespace Tenancy.RealmName

/-- The most characters a realm name may have. -/
def maxSize : Nat := 63

/-- A realm name begins with one of the letters `a` to `z`. -/
def isHead (c : Char) : Bool := c.isLower

/-- After the first letter, digits, underscores and hyphens may stand as well. -/
def isTail (c : Char) : Bool := c.isLower || c.isDigit || c == '_' || c == '-'

/-- Whether a tenant may be given a realm under this name. -/
def isValid (name : String) : Bool :=
  match name.toList with
  | [] => false
  | c :: rest => decide (name.utf8ByteSize ≤ maxSize) && isHead c && rest.all isTail

end Tenancy.RealmName
