/-!
# JSON values

Objects keep the order in which their members were written, so that a value has one printed form.
A number is a whole number or a float; the float is kept as its bits, which makes equality of values
plain equality.
-/

namespace Tenancy

/-- A JSON number. -/
inductive Number where
  | int (value : Int)
  | real (bits : UInt64)
  deriving Repr, DecidableEq

/-- A JSON value. -/
inductive Json where
  | null
  | bool (value : Bool)
  | num (value : Number)
  | str (value : String)
  | arr (items : List Json)
  | obj (members : List (String × Json))
  deriving Repr, Inhabited, BEq

namespace Json

/-- A natural number as a value. -/
def nat (n : Nat) : Json := .num (.int n)

/-- The member of an object under a key. -/
def member? (key : String) : Json → Option Json
  | .obj members => (members.find? fun m => m.1 == key).map (·.2)
  | _ => none

/-- The text of a string value. -/
def text? : Json → Option String
  | .str s => some s
  | _ => none

end Json

end Tenancy
