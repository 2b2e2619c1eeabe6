import Tenancy.Json.Codec

/-!
# Records

A record type is described once, by the table of its fields; writing and reading both go by the
table. An object is read member by member: a known name sets its field, an unknown one is passed
over (or refused, if the record is strict), and a field that was never set keeps the value of the
blank record if it may be missing. A record may also stand as a list of its fields in table order;
what a list holds beyond them depends on where it comes from.
-/

namespace Tenancy.Json

/-- A field of a record type. -/
structure Field (σ : Type) where
  name : String
  /-- What is written for the field, if anything. -/
  write : σ → Option Json
  /-- How the field is set from a document. -/
  read : Origin → Doc → Reading (σ → σ)
  /-- Whether an object may do without the field. -/
  optional : Bool
  /-- Whether a list may end before the field. -/
  short : Bool

namespace Field

variable {σ τ : Type}

/-- Reads a field's value and sets it. -/
def readWith (c : Codec τ) (set : τ → σ → σ) (origin : Origin) (d : Doc) : Reading (σ → σ) :=
  (c.decode origin d).map set

/-- A field that must be there. -/
def required (name : String) (c : Codec τ) (get : σ → τ) (set : τ → σ → σ) : Field σ where
  name := name
  write s := some (c.encode (get s))
  read := readWith c set
  optional := false
  short := false

/-- A field that is always written and may be missing. -/
def defaulted (name : String) (c : Codec τ) (get : σ → τ) (set : τ → σ → σ) : Field σ where
  name := name
  write s := some (c.encode (get s))
  read := readWith c set
  optional := true
  short := true

/-- A field that is left out under a condition on its value. -/
def omitted (name : String) (c : Codec τ) (get : σ → τ) (set : τ → σ → σ) (absent : τ → Bool) :
    Field σ where
  name := name
  write s := if absent (get s) then none else some (c.encode (get s))
  read := readWith c set
  optional := true
  short := true

/-- A field that is written only if it has a value. -/
def present (name : String) (c : Codec τ) (get : σ → Option τ) (set : Option τ → σ → σ) : Field σ where
  name := name
  write s := (get s).map c.encode
  read := readWith c.option set
  optional := true
  short := false

/-- The same field, which a list may end before. -/
def mayEnd (f : Field σ) : Field σ := { f with short := true }

/-- The same field, which a list may not end before. -/
def mustStand (f : Field σ) : Field σ := { f with short := false }

end Field

/-- A record type: its name in messages, its fields, the record that reading starts from, and
whether unknown names are refused. -/
structure Record (σ : Type) where
  name : String
  fields : List (Field σ)
  blank : σ
  strict : Bool

namespace Record

variable {σ : Type}

/-- The members of a record's object. -/
def members (r : Record σ) (v : σ) : List (String × Json) :=
  r.fields.filterMap fun f => (f.write v).map fun j => (f.name, j)

/-- The record in a message. -/
def title (r : Record σ) : String := "struct " ++ r.name

/-- The record and its number of fields in a message. -/
def fullTitle (r : Record σ) : String :=
  let n := r.fields.length
  r.title ++ " with " ++ toString n ++ (if n = 1 then " element" else " elements")

/-- The complaint about the first field that was never set and may not be missing. -/
def missing (fields : List (Field σ)) (seen : List String) : Reading Unit :=
  match fields.find? fun f => !f.optional && !seen.contains f.name with
  | some f => .error (.missingField f.name)
  | none => .ok ()

/-- Reads the members of an object into a record, given the names already set. -/
def readMembers (r : Record σ) (origin : Origin) (ending : Ending) :
    List String → σ → List (Key × Doc) → Reading σ
  | seen, acc, [] => do
    guardFlaw ending.inObject
    missing r.fields seen
    return acc
  | _, _, (.other, _) :: _ => .error (.malformed .keyNotString)
  | seen, acc, (.text k, d) :: rest => do
    let name ← k.read
    match r.fields.find? fun f => f.name == name with
    | some f =>
      if seen.contains name then .error (.duplicateField name)
      else do
        let set ← f.read origin d
        readMembers r origin ending (name :: seen) (set acc) rest
    | none =>
      if r.strict then .error (.unknownField name (r.fields.map (·.name)))
      else do
        guardFlaw d.skip
        readMembers r origin ending seen acc rest

/-- The complaint about what a list holds behind the last of `count` fields. -/
def surplus (origin : Origin) (ending : Ending) (count : Nat) (items : List Doc) : Reading Unit :=
  match origin with
  | .text => guardFlaw (if items.isEmpty then ending.afterEnough else some .textAfterValue)
  | .value =>
    if items.isEmpty then .ok ()
    else .error (.wrongLength (count + items.length) "fewer elements in array")
  | .layers => .ok ()

/-- Reads the items of a list into the fields of a record, given how many were read. -/
def readItems (r : Record σ) (origin : Origin) (ending : Ending) :
    Nat → σ → List (Field σ) → List Doc → Reading σ
  | n, acc, [], items => do
    surplus origin ending n items
    return acc
  | n, acc, f :: fields, [] => do
    guardFlaw ending.inList
    if f.short then readItems r origin ending (n + 1) acc fields []
    else .error (.wrongLength n r.fullTitle)
  | n, acc, f :: fields, d :: rest => do
    let set ← f.read origin d
    readItems r origin ending (n + 1) (set acc) fields rest

/-- Reads a record. -/
def decode (r : Record σ) (origin : Origin) : Doc → Reading σ
  | .obj members ending => r.readMembers origin ending [] r.blank members
  | .arr items ending => r.readItems origin ending 0 r.blank r.fields items
  | d => .error (d.mismatch r.title)

/-- The codec of a record type. -/
def codec (r : Record σ) : Codec σ where
  encode v := .obj (r.members v)
  decode := r.decode

end Record

end Tenancy.Json
