import Tenancy.Json.Printer
import Tenancy.Json.Reader
import Tenancy.Dict
import Tenancy.Text.Excerpt

/-!
# Codecs

A codec writes values of a type as JSON and reads them from a document. Reading follows the text:
of several things that are wrong the first one in the text is reported, and what a type does not
ask for is only checked for being JSON. A value that is already at hand is read in the same way, but
for what its containers hold beyond what the type asks for.
-/

namespace Tenancy.Json

/-- What stands in a document where something else was wanted. -/
inductive Found where
  | null
  | bool (value : Bool)
  | num (value : Number)
  | str (value : String)
  | sequence
  | map
  deriving Repr, DecidableEq

/-- Why a document is not a value of the wanted type. -/
inductive ReadError where
  | malformed (flaw : Flaw)
  | wrongType (found : Found) (wanted : String)
  | wrongValue (found : Found) (wanted : String)
  | wrongLength (length : Nat) (wanted : String)
  | missingField (name : String)
  | duplicateField (name : String)
  | unknownField (name : String) (known : List String)
  | unknownVariant (name : String) (known : List String)
  /-- A rule of the type's own. -/
  | rejected (message : String)
  deriving Repr, DecidableEq

/-- A name between the quotes of a message. -/
def ticked (s : String) : String := "\x60" ++ s ++ "\x60"

/-- What was found, for a message. -/
def Found.text : Found → String
  | .null => "null"
  | .bool b => "boolean " ++ ticked (if b then "true" else "false")
  | .num (.int n) => "integer " ++ ticked (toString n)
  | .num (.real bits) => "floating point " ++ ticked (numberText (.real bits))
  | .str s => "string " ++ Excerpt.quote s
  | .sequence => "sequence"
  | .map => "map"

/-- A choice of names: two are joined by `or`, more are listed. -/
def alternatives : List String → String
  | [] => "there are no variants"
  | [a] => "expected " ++ ticked a
  | [a, b] => "expected " ++ ticked a ++ " or " ++ ticked b
  | names => "expected one of " ++ ", ".intercalate (names.map ticked)

/-- The wording of each error. -/
def ReadError.message : ReadError → String
  | .malformed f => f.message
  | .wrongType found wanted => "invalid type: " ++ found.text ++ ", expected " ++ wanted
  | .wrongValue found wanted => "invalid value: " ++ found.text ++ ", expected " ++ wanted
  | .wrongLength n wanted => "invalid length " ++ toString n ++ ", expected " ++ wanted
  | .missingField name => "missing field " ++ ticked name
  | .duplicateField name => "duplicate field " ++ ticked name
  | .unknownField name known => "unknown field " ++ ticked name ++ ", " ++ alternatives known
  | .unknownVariant name known => "unknown variant " ++ ticked name ++ ", " ++ alternatives known
  | .rejected message => message

/-- A reading that may fail. -/
abbrev Reading := Except ReadError

/-- The sound token of a lexeme. -/
def Lexeme.read {α : Type} : Lexeme α → Reading α
  | .good v => .ok v
  | .flawed f _ => .error (.malformed f)

/-- The complaint about a document of another kind than the wanted one. -/
def Doc.mismatch (wanted : String) : Doc → ReadError
  | .null => .wrongType .null wanted
  | .bool b => .wrongType (.bool b) wanted
  | .num (.good n) => .wrongType (.num n) wanted
  | .num (.flawed f _) => .malformed f
  | .str (.good s) => .wrongType (.str s) wanted
  | .str (.flawed f _) => .malformed f
  | .arr _ _ => .wrongType .sequence wanted
  | .obj _ _ => .wrongType .map wanted
  | .misspelt f => .malformed f
  | .broken f => .malformed f

/-- Fails with a flaw if there is one. -/
def guardFlaw : Option Flaw → Reading Unit
  | none => .ok ()
  | some f => .error (.malformed f)

/-- What a document is taken from. -/
inductive Origin where
  /-- A text, in which nothing may follow what was read. -/
  | text
  /-- A value, whose surplus items are counted. -/
  | value
  /-- Layers of settings, whose surplus items are passed over. -/
  | layers
  deriving Repr, DecidableEq

/-- How values of a type are written and read. -/
structure Codec (α : Type) where
  encode : α → Json
  decode : Origin → Doc → Reading α

namespace Codec

variable {α β : Type}

/-- Text. -/
def string : Codec String where
  encode := .str
  decode
    | _, .str s => s.read
    | _, d => .error (d.mismatch "a string")

/-- Truth values. -/
def bool : Codec Bool where
  encode := .bool
  decode
    | _, .bool b => .ok b
    | _, d => .error (d.mismatch "a boolean")

/-- Whole numbers between two bounds. -/
def decodeInt (wanted : String) (least greatest : Int) : Doc → Reading Int
  | .num (.good (.int n)) =>
    if least ≤ n ∧ n ≤ greatest then .ok n else .error (.wrongValue (.num (.int n)) wanted)
  | d => .error (d.mismatch wanted)

/-- Counts of 32 bits. -/
def uint32 : Codec UInt32 where
  encode n := .num (.int n.toNat)
  decode _ d := (decodeInt "u32" 0 (UInt32.size - 1) d).map fun n => UInt32.ofNat n.toNat

/-- Counts of 64 bits. -/
def uint64 : Codec UInt64 where
  encode n := .num (.int n.toNat)
  decode _ d := (decodeInt "u64" 0 (UInt64.size - 1) d).map fun n => UInt64.ofNat n.toNat

/-- Numbers of 32 bits with a sign. -/
def int32 : Codec Int32 where
  encode n := .num (.int n.toInt)
  decode _ d := (decodeInt "i32" Int32.minValue.toInt Int32.maxValue.toInt d).map Int32.ofInt

/-- A value that may be null. -/
def option (c : Codec α) : Codec (Option α) where
  encode
    | none => .null
    | some v => c.encode v
  decode
    | _, .null => .ok none
    | origin, d => (c.decode origin d).map some

/-- Items one after the other. -/
def decodeItems (c : Codec α) (origin : Origin) (ending : Ending) : List Doc → Reading (List α)
  | [] => (guardFlaw ending.inList).map fun _ => []
  | d :: rest => do
    let v ← c.decode origin d
    let vs ← decodeItems c origin ending rest
    return v :: vs

/-- Lists. -/
def list (c : Codec α) : Codec (List α) where
  encode vs := .arr (vs.map c.encode)
  decode
    | origin, .arr items ending => decodeItems c origin ending items
    | _, d => .error (d.mismatch "a sequence")

/-- Entries one after the other; the last one under a key counts. -/
def decodeEntries (c : Codec α) (origin : Origin) (ending : Ending) :
    Dict α → List (Key × Doc) → Reading (Dict α)
  | acc, [] => (guardFlaw ending.inObject).map fun _ => acc
  | _, (.other, _) :: _ => .error (.malformed .keyNotString)
  | acc, (.text k, d) :: rest => do
    let key ← k.read
    let v ← c.decode origin d
    decodeEntries c origin ending (acc.insert key v) rest

/-- Dictionaries. -/
def dict (c : Codec α) : Codec (Dict α) where
  encode d := .obj (d.entries.map fun e => (e.1, c.encode e.2))
  decode
    | origin, .obj members ending => decodeEntries c origin ending .empty members
    | _, d => .error (d.mismatch "a map")

/-- The variant under a name. -/
def variant? (variants : List (String × α)) (name : String) : Reading α :=
  match variants.find? fun v => v.1 == name with
  | some v => .ok v.2
  | none => .error (.unknownVariant name (variants.map (·.1)))

/-- The variant that stands as a key, over null. -/
def keyedVariant (variants : List (String × α)) : Key × Doc → Reading α
  | (.other, d) => .error (d.mismatch "variant identifier")
  | (.text k, d) => do
    let v ← variant? variants (← k.read)
    match d with
    | .null => .ok v
    | d => .error (d.mismatch "unit")

/-- One of a few names in a text. -/
def choiceInText (variants : List (String × α)) : Doc → Reading α
  | .str s => do variant? variants (← s.read)
  | .obj [] .closed => .error (.malformed .noValue)
  | .obj [] _ => .error (.malformed .endInValue)
  | .obj (m :: rest) ending => do
    let v ← keyedVariant variants m
    match rest, ending with
    | [], .closed => .ok v
    | [], .missing => .error (.malformed .endInObject)
    | _, _ => .error (.malformed .noValue)
  | .broken f => .error (.malformed f)
  | _ => .error (.malformed .noValue)

/-- One of a few names in a value. -/
def choiceInValue (variants : List (String × α)) : Doc → Reading α
  | .str s => do variant? variants (← s.read)
  | .obj [m] _ => keyedVariant variants m
  | .obj _ _ => .error (.wrongValue .map "map with a single key")
  | d => .error (d.mismatch "string or map")

/-- One of a few names in layers of settings, where the first key alone counts. -/
def choiceInLayers (variants : List (String × α)) : Doc → Reading α
  | .obj (m :: _) _ => keyedVariant variants m
  | d => choiceInValue variants d

/-- One of a few names. A name may also stand as the only key of an object, over null. -/
def choice [BEq α] (variants : List (String × α)) : Codec α where
  encode v := .str (((variants.find? fun x => x.2 == v).map (·.1)).getD "")
  decode
    | .text, d => choiceInText variants d
    | .value, d => choiceInValue variants d
    | .layers, d => choiceInLayers variants d

/-- Texts that another notion accepts. -/
def parsed (wanted : String) (write : α → String) (parse : String → Except String α) : Codec α where
  encode v := .str (write v)
  decode
    | _, .str s => do
      match parse (← s.read) with
      | .ok v => .ok v
      | .error message => .error (.rejected message)
    | _, d => .error (d.mismatch wanted)

/-- Reads a value from a whole text. -/
def read (c : Codec α) (gs : List Glyph) : Reading α :=
  let (d, more) := Doc.ofGlyphs gs
  do
    let v ← c.decode .text d
    if more then .error (.malformed .textAfterValue) else .ok v

/-- Reads a value from a text. -/
def readText (c : Codec α) (s : String) : Reading α := c.read (glyphsOf s)

/-- Reads a value that stands in another one. -/
def readValue (c : Codec α) (v : Json) : Reading α := c.decode .value (.ofJson v)

end Codec

mutual

/-- A document as a value. Members come out in key order, the last one under a key counts, and
containers may not be nested `depth` deep. -/
def Doc.toJson (depth : Nat) : Doc → Reading Json
  | .null => .ok .null
  | .bool b => .ok (.bool b)
  | .num n => n.read.map .num
  | .str s => s.read.map .str
  | .arr items ending =>
    if depth ≤ 1 then .error (.malformed .tooDeep)
    else do
      let vs ← itemsToJson (depth - 1) items
      guardFlaw ending.inList
      return .arr vs
  | .obj members ending =>
    if depth ≤ 1 then .error (.malformed .tooDeep)
    else do
      let d ← membersToJson (depth - 1) members .empty
      guardFlaw ending.inObject
      return .obj d.entries
  | .misspelt f => .error (.malformed f)
  | .broken f => .error (.malformed f)

/-- The items of a list. -/
def itemsToJson (depth : Nat) : List Doc → Reading (List Json)
  | [] => .ok []
  | d :: rest => do
    let v ← Doc.toJson depth d
    let vs ← itemsToJson depth rest
    return v :: vs

/-- The members of an object. -/
def membersToJson (depth : Nat) : List (Key × Doc) → Dict Json → Reading (Dict Json)
  | [], acc => .ok acc
  | (.other, _) :: _, _ => .error (.malformed .keyNotString)
  | (.text k, d) :: rest, acc => do
    let key ← k.read
    let v ← Doc.toJson depth d
    membersToJson depth rest (acc.insert key v)

end

/-- How many levels of containers a value may have, and one more. -/
def depthLimit : Nat := 128

/-- Any value at all. -/
def Codec.value : Codec Json where
  encode := id
  decode _ := Doc.toJson depthLimit

end Tenancy.Json
