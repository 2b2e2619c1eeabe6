import Tenancy.Decimal.Numeral
import Tenancy.Dict
import Tenancy.Json.Basic
import Tenancy.Layer.Yaml.Node

/-!
# Settings files

A settings file is YAML, of which JSON is a special case. A plain scalar may mean a truth value, a
number or nothing; a scalar in quotes is text. The last of several members under a key counts. A tag
of the file's own stands for a mapping from the tag to what it is put before.
-/

namespace Tenancy.Layer.Yaml

/-! ## Scalars -/

/-- Whether a text is made of digits alone and begins with a zero that says nothing. -/
def hasIdleZero (cs : List Char) : Bool :=
  let ds := match cs with
    | '+' :: rest => rest
    | '-' :: rest => rest
    | _ => cs
  1 < ds.length && ds.head? = some '0' && ds.all Char.isDigit

/-- A natural number, in hexadecimal, octal and binary behind their markers. -/
def natural? (cs : List Char) : Option Nat :=
  match cs with
  | '0' :: 'x' :: rest => digitsIn? 16 rest
  | '0' :: 'o' :: rest => digitsIn? 8 rest
  | '0' :: 'b' :: rest => digitsIn? 2 rest
  | _ => digitsIn? 10 cs

/-- A whole number of up to 128 bits. -/
def integer? (cs : List Char) : Option Int :=
  let bounded (n : Int) : Option Int :=
    if -(Nat.pow 2 127 : Int) ≤ n ∧ n < Nat.pow 2 128 then some n else none
  if hasIdleZero cs then none
  else
    match cs with
    | '+' :: rest => (natural? rest).bind fun n => bounded n
    | '-' :: rest => (natural? rest).bind fun n => bounded (-n)
    | _ => (natural? cs).bind fun n => bounded n

/-- Whether a text is a number with a fraction or an exponent, an infinite one, or none at all. -/
def isReal (cs : List Char) : Bool :=
  let s := String.ofList (if cs.head? = some '+' then cs.drop 1 else cs)
  [".inf", ".Inf", ".INF", "-.inf", "-.Inf", "-.INF"].contains s
    || [".nan", ".NaN", ".NAN"].contains (String.ofList cs)
    || (!([['+', '-'], ['+', '+']].any (·.isPrefixOf cs))
      && ((Decimal.Numeral.ofText? cs).map (·.isFinite)).getD false)

/-- Any number that is not whole: settings make no difference between them. -/
def someReal : Json := .num (.real 0)

/-- A truth value. -/
def truth? (s : String) : Option Bool :=
  if ["true", "True", "TRUE"].contains s then some true
  else if ["false", "False", "FALSE"].contains s then some false
  else none

/-- Whether a text says that there is nothing. -/
def isNothing (s : String) : Bool := ["~", "null", "Null", "NULL"].contains s

/-- A number. -/
def number? (cs : List Char) : Option Json :=
  ((integer? cs).map fun n => Json.num (.int n)).or (if isReal cs then some someReal else none)

/-- What a plain scalar means. -/
def resolve (s : String) : Json :=
  if s.isEmpty || isNothing s then .null
  else
    match truth? s with
    | some b => .bool b
    | none =>
      if hasIdleZero s.toList then .str s else (number? s.toList).getD (.str s)

/-- What a scalar without a tag means. -/
def untagged (plain : Bool) (s : String) : Json := if plain then resolve s else .str s

/-- The stem of the tags that all files know. -/
def coreStem : String := "tag:yaml.org,2002:"

/-- What a scalar with a tag that all files know means, if it is of the tag's kind. -/
def tagged? (tag s : String) : Option Json :=
  if tag = coreStem ++ "bool" then (truth? s).map .bool
  else if tag = coreStem ++ "int" then (integer? s.toList).map fun n => .num (.int n)
  else if tag = coreStem ++ "float" then (number? s.toList).map fun _ => someReal
  else if tag = coreStem ++ "null" then if isNothing s then some .null else none
  else some (.str s)

/-! ## Trees -/

/-- The name of a tag of the file's own. -/
def ownTag? (tag : Option String) : Option String :=
  tag.bind fun t =>
    match t.toList with
    | ['!'] => some t
    | '!' :: rest => some (String.ofList rest)
    | _ => none

/-- A value under the tag before it. -/
def underTag (tag : Option String) (v : Json) : Json :=
  match ownTag? tag with
  | some name => .obj [(name, v)]
  | none => v

/-- The text of a key. -/
def keyText? : Node → Option String
  | .scalar _ _ text => some text
  | _ => none

mutual

/-- What a node means; collections may not be nested deeper than `depth`. -/
def value? (depth : Nat) : Node → Option Json
  | .scalar tag plain text =>
    if (ownTag? tag).isSome then some (underTag tag (untagged plain text))
    else
      match tag with
      | some t => tagged? t text
      | none => some (untagged plain text)
  | .sequence tag items =>
    if depth = 0 then none
    else (items? (depth - 1) items).map fun vs => underTag tag (.arr vs)
  | .mapping tag members =>
    if depth = 0 then none
    else (members? (depth - 1) .empty members).map fun d => underTag tag (.obj d.entries)

/-- The items of a sequence. -/
def items? (depth : Nat) : List Node → Option (List Json)
  | [] => some []
  | n :: rest => do
    let v ← value? depth n
    let vs ← items? depth rest
    return v :: vs

/-- The members of a mapping. -/
def members? (depth : Nat) (acc : Dict Json) : List (Node × Node) → Option (Dict Json)
  | [] => some acc
  | (k, n) :: rest => do
    let key ← keyText? k
    let v ← value? depth n
    members? depth (acc.insert key v) rest

end

/-- How deep collections may be nested. -/
def depthLimit : Nat := 128

/-- The mapping that a file spells; an empty file spells an empty one. -/
def parse (s : String) : Option Json := do
  match ← Node.ofTokens? (← tokens? s.toList) with
  | none => return .obj []
  | some (.scalar _ true "") => return .obj []
  | some (.mapping _ members) =>
    return .obj (← members? (depthLimit - 1) .empty members).entries
  | some _ => none

end Tenancy.Layer.Yaml
