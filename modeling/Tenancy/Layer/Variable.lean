import Tenancy.Decimal.Numeral
import Tenancy.Layer.Overlay
import Tenancy.Layer.Yaml
import Tenancy.Unicode.Letter

/-!
# Settings in the environment

A variable sets one setting: its name, after the marker in front, is the path of the setting, with
two underscores between the parts. Its value is read as a truth value, a number, a quoted text, a
list or a table; whatever is none of these is taken as text. All variables together are one layer,
in which a later name is laid over an earlier one.
-/

namespace Tenancy.Layer.Variable

/-- What the names of the variables begin with. -/
def marker : String := "APP__"

/-- Blanks around values. -/
def isBlank (c : Char) : Bool := c = ' ' || c = '\t' || c = '\n' || c = '\r' || c.toNat = 12

/-- Ends a value inside a list or table. -/
def isSeparator (c : Char) : Bool := c = ',' || Yaml.isBracket c

/-! ## Values -/

/-- Reads a text behind its opening quote up to the closing one, which a backslash can hide. -/
def untilQuote? : List Char → Option (List Char × List Char)
  | [] => none
  | '"' :: rest => some ([], rest)
  | '\\' :: c :: rest => (untilQuote? rest).map fun (cs, tail) => ('\\' :: c :: cs, tail)
  | c :: rest => (untilQuote? rest).map fun (cs, tail) => (c :: cs, tail)

/-- The character with a number in hexadecimal digits. -/
def numbered? (digits : List Char) : Option Char :=
  (Yaml.digitsIn? 16 digits).bind fun n => if n.isValidChar then some (Char.ofNat n) else none

/-- The character that a letter behind a backslash stands for. -/
def escaped? (c : Char) : Option Char :=
  ([('b', 8), ('t', 9), ('n', 10), ('f', 12), ('r', 13), ('"', 34), ('\\', 92)].lookup c).map
    Char.ofNat

/-- A quoted text without its escapes. It may contain no control characters but tabs. -/
def unescape? : List Char → Option (List Char)
  | [] => some []
  | '\\' :: 'u' :: a :: b :: c :: d :: rest => do
    return (← numbered? [a, b, c, d]) :: (← unescape? rest)
  | '\\' :: 'U' :: a :: b :: c :: d :: e :: f :: g :: h :: rest => do
    return (← numbered? [a, b, c, d, e, f, g, h]) :: (← unescape? rest)
  | '\\' :: c :: rest => do return (← escaped? c) :: (← unescape? rest)
  | c :: rest =>
    if c = '\t' || (32 ≤ c.toNat && c.toNat ≠ 127) then (unescape? rest).map (c :: ·) else none

/-- Reads a quoted text behind its opening quote. -/
def quoted? (cs : List Char) : Option (String × List Char) := do
  let (text, tail) ← untilQuote? cs
  return (String.ofList (← unescape? text), tail)

/-- A whole number of 64 bits, with a sign or without one. -/
def integer? (cs : List Char) : Option Int :=
  let n := match cs with
    | '-' :: ds => (Yaml.digitsIn? 10 ds).map fun n => -(n : Int)
    | '+' :: ds => (Yaml.digitsIn? 10 ds).map Int.ofNat
    | ds => (Yaml.digitsIn? 10 ds).map Int.ofNat
  n.filter fun n => -(Nat.pow 2 63 : Int) ≤ n ∧ n < Nat.pow 2 64

/-- A value that is neither quoted nor bracketed. -/
def bare (cs : List Char) : Json :=
  if cs.contains '.' && (Decimal.Numeral.ofText? cs).isSome then Yaml.someReal
  else ((integer? cs).map fun n => Json.num (.int n)).getD (.str (String.ofList cs))

mutual

/-- Reads a value with the blanks around it. -/
def value? : Nat → List Char → Option (Json × List Char)
  | 0, _ => none
  | fuel + 1, cs =>
    let done (p : Json × List Char) : Json × List Char := (p.1, p.2.dropWhile isBlank)
    match cs.dropWhile isBlank with
    | 't' :: 'r' :: 'u' :: 'e' :: rest => some (done (.bool true, rest))
    | 'f' :: 'a' :: 'l' :: 's' :: 'e' :: rest => some (done (.bool false, rest))
    | '"' :: rest => (quoted? rest).map fun p => done (.str p.1, p.2)
    | '\'' :: c :: '\'' :: rest => some (done (.str (String.singleton c), rest))
    | '\'' :: _ => none
    | '[' :: rest => (listItems? fuel [] rest).map done
    | text =>
      if text.head? = some Yaml.openBrace then (tableMembers? fuel .empty (text.drop 1)).map done
      else
        some (bare (Unicode.trim (text.takeWhile fun c => !isSeparator c)),
          text.dropWhile fun c => !isSeparator c)

/-- Reads the items of a list up to its closing bracket, before which a comma may stand. -/
def listItems? : Nat → List Json → List Char → Option (Json × List Char)
  | 0, _, _ => none
  | fuel + 1, items, cs =>
    match cs with
    | ']' :: rest => some (.arr items, rest)
    | _ => do
      let (v, tail) ← value? fuel cs
      match tail with
      | ',' :: rest => listItems? fuel (items ++ [v]) rest
      | ']' :: rest => return (.arr (items ++ [v]), rest)
      | _ => none

/-- Reads the members of a table up to its closing brace, before which a comma may stand. -/
def tableMembers? : Nat → Dict Json → List Char → Option (Json × List Char)
  | 0, _, _ => none
  | fuel + 1, members, cs =>
    if cs.head? = some Yaml.closeBrace then some (.obj members.entries, cs.drop 1)
    else do
      let (key, tail) ← key? (cs.dropWhile isBlank)
      let '=' :: after := tail.dropWhile isBlank | none
      let (v, tail) ← value? fuel after
      let members := members.insert key v
      if tail.head? = some ',' then tableMembers? fuel members (tail.drop 1)
      else if tail.head? = some Yaml.closeBrace then
        return (.obj members.entries, tail.drop 1)
      else none

/-- Reads a key of a table. -/
def key? (cs : List Char) : Option (String × List Char) :=
  match cs with
  | '"' :: rest => quoted? rest
  | _ =>
    let key := cs.takeWhile Yaml.isNameChar
    if key.isEmpty then none else some (String.ofList key, cs.drop key.length)

end

/-- What the text of a variable means. -/
def read (s : String) : Json :=
  match value? (2 * s.length + 2) s.toList with
  | some (v, []) => v
  | _ => .str s

/-! ## Names -/

/-- The parts of a path; a point separates them as well as two underscores. -/
def splitPath : List Char → List (List Char)
  | [] => [[]]
  | '_' :: '_' :: rest => [] :: splitPath rest
  | '.' :: rest => [] :: splitPath rest
  | c :: rest =>
    match splitPath rest with
    | [] => [[c]]
    | p :: ps => (c :: p) :: ps

/-- The path that the name of a variable spells, in small letters. No part of it is empty. -/
def path? (name : String) : Option (List String) :=
  let cs := Unicode.trim (name.toList.map Char.toLower)
  let start := marker.toList.map Char.toLower
  if start.isPrefixOf cs then
    let parts := splitPath (Unicode.trim (cs.drop start.length))
    if parts.any List.isEmpty then none else some (parts.map String.ofList)
  else none

/-- A value under a path. -/
def nest (v : Json) (path : List String) : Json := path.foldr (fun p v => .obj [(p, v)]) v

/-- What a variable sets, if it sets anything. -/
def setting? (name text : String) : Option Json := (path? name).map (nest (read text))

/-- What all variables set together, in the order of their names. -/
def layer (environment : List (String × String)) : Json :=
  ((Dict.ofList environment).entries.filterMap fun v => setting? v.1 v.2).foldl overlay (.obj [])

end Tenancy.Layer.Variable
