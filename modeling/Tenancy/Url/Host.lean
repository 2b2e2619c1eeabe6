import Tenancy.Text.Percent
import Tenancy.Url.Basic
import Tenancy.Url.Label

/-!
# Hosts

A host in brackets is an IPv6 address; one whose last part is a number is an IPv4 address, in any of
the spellings that numbers have; everything else is a name, which is put in ASCII.
-/

namespace Tenancy

/-- Why a text is no URL. -/
inductive UrlError where
  | noScheme
  | emptyHost
  | badPort
  | badIpv4
  | badIpv6
  | badName
  | badHostCharacter
  deriving DecidableEq, Repr

/-- The wording of each error. -/
def UrlError.message : UrlError → String
  | .noScheme => "relative URL without a base"
  | .emptyHost => "empty host"
  | .badPort => "invalid port number"
  | .badIpv4 => "invalid IPv4 address"
  | .badIpv6 => "invalid IPv6 address"
  | .badName => "invalid international domain name"
  | .badHostCharacter => "invalid domain character"

namespace Host

/-! ## IPv4 -/

/-- The value of digits in a base, if they are digits of that base. -/
def numberIn (base : Nat) (cs : List Char) : Option Nat :=
  cs.foldlM (fun n c => do
    let d ← Percent.value? c
    if d < base then some (n * base + d) else none) 0

/-- A number: hexadecimal after `0x`, octal after `0`, else decimal. -/
def number? : List Char → Option Nat
  | [] => none
  | ['0'] => some 0
  | '0' :: c :: rest =>
    if c = 'x' ∨ c = 'X' then numberIn 16 rest else numberIn 8 (c :: rest)
  | cs => numberIn 10 cs

/-- The last part of a name; an empty one at the end does not count. -/
def lastPart (parts : List (List Char)) : Option (List Char) :=
  match parts.reverse with
  | [] => none
  | [p] => if p.isEmpty then none else some p
  | p :: q :: _ => if p.isEmpty then some q else some p

/-- Whether a name has to be an IPv4 address. -/
def endsInNumber (parts : List (List Char)) : Bool :=
  match lastPart parts with
  | some p => (!p.isEmpty && p.all Char.isDigit) || (number? p).isSome
  | none => false

/-- The address that the parts of a name spell: the last number fills all remaining bytes. -/
def ipv4? (parts : List (List Char)) : Option Nat := do
  let parts := if parts.getLast? = some [] then parts.dropLast else parts
  if parts.length > 4 then none
  let numbers ← parts.mapM number?
  let last ← numbers.getLast?
  let firsts := numbers.dropLast
  if last ≥ Nat.pow 256 (4 - firsts.length) || firsts.any (255 < ·) then none
  return (firsts.zip [16777216, 65536, 256]).foldl (fun total p => total + p.1 * p.2) last

/-! ## IPv6 -/

/-- Four decimal numbers without leading zeros, as two groups. -/
def embeddedIpv4? (cs : List Char) : Option (List Nat) := do
  let parts := cs.splitOn '.'
  if parts.length ≠ 4 then none
  let bytes ← parts.mapM fun p => do
    if p.isEmpty || (1 < p.length && p.head? = some '0') || !p.all Char.isDigit then none
    let n ← numberIn 10 p
    if n ≤ 255 then some n else none
  match bytes with
  | [a, b, c, d] => some [a * 256 + b, c * 256 + d]
  | _ => none

/-- Groups of up to four hexadecimal digits; the last one may be an embedded IPv4 address. -/
def groups? (mayEmbed : Bool) : List (List Char) → Option (List Nat)
  | [] => some []
  | [g] =>
    if mayEmbed && g.contains '.' then embeddedIpv4? g
    else if g.isEmpty || 4 < g.length then none
    else (numberIn 16 g).map ([·])
  | g :: rest => do
    if g.isEmpty || 4 < g.length then none
    let n ← numberIn 16 g
    let ns ← groups? mayEmbed rest
    return n :: ns

/-- The colon-separated groups of a text; an empty text has none. -/
def groupTexts (cs : List Char) : List (List Char) := if cs.isEmpty then [] else cs.splitOn ':'

/-- Splits a text at the first pair of colons. -/
def splitAtGap : List Char → Option (List Char × List Char)
  | ':' :: ':' :: rest => some ([], rest)
  | c :: rest => (splitAtGap rest).map fun p => (c :: p.1, p.2)
  | [] => none

/-- The groups of an IPv6 address; two colons stand for one or more groups of zeros. -/
def ipv6? (cs : List Char) : Option (List Nat) :=
  match splitAtGap cs with
  | none => do
    let gs ← groups? true (groupTexts cs)
    if gs.length = 8 then some gs else none
  | some (front, back) => do
    let fs ← groups? false (groupTexts front)
    let bs ← groups? true (groupTexts back)
    let known := fs.length + bs.length
    if known ≤ 7 then some (fs ++ List.replicate (8 - known) 0 ++ bs) else none

/-- A host in brackets. -/
def bracketed? (cs : List Char) : Except UrlError Host :=
  match (if cs.getLast? = some ']' then ipv6? (cs.drop 1).dropLast else none) with
  | some gs => .ok (.ipv6 gs)
  | none => .error .badIpv6

/-- The host of a special scheme. -/
def parse (cs : List Char) : Except UrlError Host :=
  if cs.head? = some '[' then bracketed? cs
  else
    let decoded := (Utf8.lossy (Percent.decode (Utf8.encode (String.ofList cs)))).toList
    match asciiName decoded with
    | none => .error .badName
    | some [] => .error .emptyHost
    | some ascii =>
      let parts := ascii.splitOn '.'
      if endsInNumber parts then
        match ipv4? parts with
        | some a => .ok (.ipv4 a)
        | none => .error .badIpv4
      else .ok (.name (String.ofList ascii))

/-- The host of any other scheme, which is not interpreted. -/
def parseOther (cs : List Char) : Except UrlError Host :=
  if cs.head? = some '[' then bracketed? cs
  else if cs.any Url.forbiddenInHost then .error .badHostCharacter
  else .ok (.name (String.ofList (Percent.encodeChars Url.isControl cs)))

end Host

end Tenancy
