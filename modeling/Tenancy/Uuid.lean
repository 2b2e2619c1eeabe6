import Tenancy.Json.Codec

/-!
# UUIDs

A UUID is 128 bits. Its canonical text has five hyphenated groups of hexadecimal digits; reading
also accepts the digits alone, the groups in braces, and the groups behind `urn:uuid:`. A rejected
text is explained by the first thing that keeps it from being any of these.
-/

namespace Tenancy

/-- A universally unique id. -/
structure Uuid where
  bits : BitVec 128
  deriving DecidableEq, Repr

namespace Uuid

/-- The id of all zeros. -/
def nil : Uuid := ⟨0⟩

instance : Inhabited Uuid := ⟨nil⟩

/-- The digits of each group. -/
def groupSizes : List Nat := [8, 4, 4, 4, 12]

/-- The lowest `count` hexadecimal digits of a number, the highest of them first. -/
def hexDigits (n : Nat) : Nat → List Char
  | 0 => []
  | count + 1 => hexDigits (n / 16) count ++ [Json.hexDigit (n % 16)]

/-- Cuts a list into pieces of the given sizes. -/
def cut {α : Type} : List Nat → List α → List (List α)
  | [], _ => []
  | n :: sizes, xs => xs.take n :: cut sizes (xs.drop n)

/-- The canonical text. -/
def text (u : Uuid) : String :=
  String.ofList (List.intercalate ['-'] (cut groupSizes (hexDigits u.bits.toNat 32)))

instance : ToString Uuid := ⟨text⟩

/-- The value of a list of hexadecimal digits. -/
def valueOf (cs : List Char) : Option Nat :=
  cs.foldlM (fun n c => (Json.hexValue? (some c)).map (n * 16 + ·)) 0

/-- The id whose digits are given. -/
def ofDigits? (cs : List Char) : Option Uuid :=
  if cs.length = 32 then (valueOf cs).map fun n => ⟨BitVec.ofNat 128 n⟩ else none

/-- The id whose groups are given, joined by hyphens. -/
def ofGroups? (cs : List Char) : Option Uuid :=
  let groups := cs.splitOn '-'
  if groups.map List.length = groupSizes then ofDigits? groups.flatten else none

/-- The label that may stand before the groups, in any case. -/
def label : List Char := ['u', 'r', 'n', ':', 'u', 'u', 'i', 'd', ':']

/-- The bytes of the longest form. -/
def longest : Nat := 45

/-- A text without the braces or the label around it: how many characters were taken off its front,
what remains, and whether nothing was taken off. -/
def unwrap (cs : List Char) : Nat × List Char × Bool :=
  match cs with
  | [] => (0, [], true)
  | c :: rest =>
    if c.toNat = 0x7B ∧ rest.getLast?.map Char.toNat = some 0x7D then (1, rest.dropLast, false)
    else if label.isPrefixOf (cs.map Char.toLower) then (label.length, cs.drop label.length, false)
    else (0, cs, true)

/-- The position in bytes of every character. -/
def positions (start : Nat) : List Char → List (Nat × Char)
  | [] => []
  | c :: rest => (start, c) :: positions (start + c.utf8Size) rest

/-- Why a text is no UUID. -/
inductive Defect where
  | badCharacter (c : Char) (position : Nat)
  | badLength (length : Nat)
  | badGroupCount (count : Nat)
  | badGroupLength (group wanted length : Nat)
  deriving Repr, DecidableEq

/-- The wording of each defect. -/
def Defect.message : Defect → String
  | .badCharacter c i =>
    "invalid character: found \x60" ++ String.singleton c ++ "\x60 at " ++ toString i
  | .badLength n => "invalid length: found " ++ toString n
  | .badGroupCount n => "invalid group count: expected 5, found " ++ toString n
  | .badGroupLength g wanted n =>
    "invalid group length in group " ++ toString g ++ ": expected " ++ toString wanted
      ++ ", found " ++ toString n

/-- The first group of another size than it should have, counted from zero; the last group takes
the blame if no other one does. -/
def wrongGroup (total : Nat) : Nat → List Nat → List (List Char) → Defect
  | i, w :: w' :: wanted, g :: groups =>
    if g.length = w then wrongGroup total (i + 1) (w' :: wanted) groups
    else .badGroupLength i w g.length
  | i, wanted, _ => .badGroupLength i (wanted.headD 0) (total - 24)

/-- Why a text is none of the accepted forms. Of a text longer than all of them nothing but its
length is looked at. -/
def defect (cs : List Char) : Defect :=
  let (offset, body, plain) := unwrap cs
  let size := cs.foldl (fun n c => n + c.utf8Size) 0
  let bad (c : Char) : Bool := !(c = '-' || (Json.hexValue? (some c)).isSome)
  if longest < size then .badLength size
  else
    match (positions offset body).find? fun p => bad p.2 with
    | some (i, c) => .badCharacter c i
    | none =>
      let groups := body.splitOn '-'
      if plain && groups.length = 1 then .badLength size
      else if groups.length ≠ 5 then .badGroupCount groups.length
      else wrongGroup size 0 groupSizes groups

/-- Reads a UUID in any of its forms. -/
def parse (s : String) : Except Defect Uuid :=
  let cs := s.toList
  let (_, body, plain) := unwrap cs
  match (if plain && cs.length = 32 then ofDigits? cs else ofGroups? body) with
  | some u => .ok u
  | none => .error (defect cs)

/-- A random UUID made of 128 random bits, marked as such by its version and variant. -/
def random (n : Nat) : Uuid :=
  let cleared := BitVec.ofNat 128 n &&& ~~~(BitVec.ofNat 128 (0xF <<< 76 ||| 3 <<< 62))
  ⟨cleared ||| BitVec.ofNat 128 (4 <<< 76 ||| 2 <<< 62)⟩

/-- UUIDs in JSON. -/
def codec : Json.Codec Uuid :=
  .parsed "a formatted UUID string" text fun s =>
    (parse s).mapError fun d => "UUID parsing failed: " ++ d.message

end Uuid

end Tenancy
