import Tenancy.Chain
import Tenancy.Cli.Pattern
import Tenancy.Decimal.Numeral
import Tenancy.Text.Utf8

/-!
# What is logged

A log filter is a list of directives. Each is a level, or a target with or without a level; a target
may go on with a span in square brackets and, in braces, with the fields that the span has. Only
whether a filter makes sense matters here.

A directive is read without the blanks around it, but its pieces are cut, by the places found in
this way, from the text that still has them. So a directive with blanks in front seldom has a level.
-/

namespace Tenancy.Cli.LogLevel

/-- What keeps a filter from being used. -/
inductive Defect where
  /-- It makes no sense. -/
  | refused (why : Chain)
  /-- A piece would begin or end inside a character. -/
  | torn
  deriving DecidableEq, Repr

/-- The names of the levels. -/
def names : List String := ["off", "error", "warn", "info", "debug", "trace"]

/-- Whether a text is a level: a name in any case, a number up to five, or nothing. -/
def isLevel (cs : List Char) : Bool :=
  let s := String.ofList (cs.map Char.toLower)
  let digits := if cs.head? = some '+' then cs.drop 1 else cs
  s.isEmpty || names.contains s
    || (!digits.isEmpty && digits.all Char.isDigit && Decimal.Numeral.valueOf digits ≤ 5)

/-- The failure of a directive whose level is none. -/
def noLevel : Chain :=
  let text := "error parsing level filter: expected one of \"off\", \"error\", \"warn\", "
    ++ "\"info\", \"debug\", \"trace\", or a number 0-5"
  ⟨text, [text]⟩

/-- The failure of a directive that has no form at all. -/
def noDirective : Chain := .single "invalid filter directive"

/-! ## Values of fields -/

/-- Whether a value is a number, which is compared as one. -/
def isNumber (cs : List Char) : Bool :=
  let unsigned := if cs.head? = some '+' || cs.head? = some '-' then cs.drop 1 else cs
  (Decimal.Numeral.ofText? cs).isSome
    || ["inf", "infinity", "nan"].contains (String.ofList (unsigned.map Char.toLower))

/-- The failure of a field whose value cannot be compared. -/
def noField (causes : List String) : Chain :=
  ⟨"invalid field filter: " ++ causes.headD "", causes⟩

/-- What is said about patterns that ask for the edges of words. -/
def edgesUnsupported : String :=
  "unsupported regex feature for DFAs: cannot build DFAs for regexes with Unicode word boundaries; "
    ++ "switch to ASCII word boundaries, or heuristically enable Unicode word boundaries or use a "
    ++ "different regex engine"

/-- What is wrong with a value. A value that is no number is a pattern. -/
def valueDefect? (cs : List Char) : Option Chain :=
  if isNumber cs then none
  else
    match Pattern.check cs with
    | .error c =>
      some (noField
        ["error building NFA", "error parsing regex", Pattern.Complaint.text (String.ofList cs) c])
    | .ok true => some (noField [edgesUnsupported])
    | .ok false => none

/-- What is wrong with a field: a name, perhaps with a value behind an equals sign. -/
def fieldDefect? (cs : List Char) : Option Chain :=
  if cs.isEmpty then some noDirective
  else
    match cs.splitOn '=' with
    | _ :: value :: _ => valueDefect? value
    | _ => none

/-! ## Directives -/

/-- The part of a directive that is being read. Pieces are known by the octet they begin at. -/
inductive Part where
  | front
  | target (start : Nat)
  | span (start : Nat)
  | field (start : Nat)
  | behindFields
  | behindSpan
  | level (start : Nat)
  deriving DecidableEq, Repr

/-- A piece of a text. -/
def cut (text : Bytes) (first last : Nat) : Except Defect (List Char) :=
  match Utf8.decode? (text.take first), Utf8.decode? ((text.take last).drop first) with
  | some _, some piece => .ok piece.toList
  | _, _ => .error .torn

/-- Refuses a directive if there is a reason. -/
def refuse : Option Chain → Except Defect Unit
  | some why => .error (.refused why)
  | none => .ok ()

/-- Whether a directive may begin with a character. -/
def mayBegin (c : Char) : Bool := c = '-' || c = ':' || c = '_' || Unicode.isAlphanumeric c

/-- The part of a directive behind a character, which stands at the given octet. -/
def Part.next (text : Bytes) (i : Nat) (c : Char) : Part → Except Defect Part
  | .front =>
    if c = '[' then .ok (.span (i + 1))
    else if mayBegin c then .ok (.target i)
    else .error (.refused noDirective)
  | .target start => do
    if c ≠ '=' && c ≠ '[' then return .target start
    let _ ← cut text start i
    return if c = '=' then .level (i + 1) else .span (i + 1)
  | .span start => do
    if c ≠ ']' && c.toNat ≠ 0x7B then return .span start
    let _ ← cut text start i
    return if c = ']' then .behindSpan else .field (i + 1)
  | .field start => do
    if c.toNat ≠ 0x7D then return .field start
    refuse (fieldDefect? (← cut text start i))
    return .behindFields
  | .behindFields => if c = ']' then .ok .behindSpan else .error (.refused noDirective)
  | .behindSpan => if c = '=' then .ok (.level (i + 1)) else .error (.refused noDirective)
  | .level start => .ok (.level start)

/-- Checks a directive that ends in a part of it. -/
def Part.finish (text : Bytes) : Part → Except Defect Unit
  | .target start => do
    let _ ← cut text start text.length
  | .level start => do
    if !isLevel (← cut text start text.length) then .error (.refused noLevel)
  | .behindSpan => .ok ()
  | _ => .error (.refused noDirective)

/-- Reads the characters of a directive, the first of which stands at the given octet. -/
def follow (text : Bytes) : Nat → Part → List Char → Except Defect Part
  | _, part, [] => .ok part
  | i, part, c :: rest => do follow text (i + c.utf8Size) (← part.next text i c) rest

/-- Checks a directive. -/
def checkDirective (cs : List Char) : Except Defect Unit := do
  let text := Utf8.encode (String.ofList cs)
  (← follow text 0 .front (Unicode.trim cs)).finish text

/-- What is wrong with a filter; the first flaw counts. -/
def defect? (s : String) : Option Defect :=
  match ((s.toList.splitOn ',').filter fun d => !d.isEmpty).mapM checkDirective with
  | .ok _ => none
  | .error d => some d

/-- What keeps the logging from being set up: a filter that the surroundings ask for is used if it
makes sense, and otherwise the one of the settings. -/
def startDefect? (asked : Option String) (level : String) : Option Defect :=
  match asked.map defect? with
  | some none => none
  | some (some .torn) => some .torn
  | _ => defect? level

end Tenancy.Cli.LogLevel
