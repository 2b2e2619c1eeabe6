import Tenancy.Json.Basic

/-!
# JSON texts, sound or broken

A text is read once, into a tree that also records where it stops being JSON. What is wrong with a
text depends on who looks: a wanted string must have sound escapes, a skipped one need not, and a
list may hold more than its reader takes. So the tree keeps both accounts of a damaged token, and
the first complaint of whoever walks it, in the order of the text, is the one reported.
-/

namespace Tenancy.Json

/-- What a text does that JSON does not allow. -/
inductive Flaw where
  | endInValue
  | endInList
  | endInObject
  | endInString
  | noValue
  | noLiteral
  | noColon
  | noListSeparator
  | noObjectSeparator
  | commaAtClose
  | textAfterValue
  | keyNotString
  | controlInString
  | badEscape
  | loneSurrogate
  | endOfHexEscape
  | badCodePoint
  | badNumber
  | numberTooLarge
  | tooDeep
  deriving Repr, DecidableEq

/-- The wording of each flaw. -/
def Flaw.message : Flaw → String
  | .endInValue => "EOF while parsing a value"
  | .endInList => "EOF while parsing a list"
  | .endInObject => "EOF while parsing an object"
  | .endInString => "EOF while parsing a string"
  | .noValue => "expected value"
  | .noLiteral => "expected ident"
  | .noColon => "expected \x60:\x60"
  | .noListSeparator => "expected \x60,\x60 or \x60]\x60"
  | .noObjectSeparator => "expected \x60,\x60 or \x60\x7d\x60"
  | .commaAtClose => "trailing comma"
  | .textAfterValue => "trailing characters"
  | .keyNotString => "key must be a string"
  | .controlInString => "control character (\\u0000-\\u001F) found while parsing a string"
  | .badEscape => "invalid escape"
  | .loneSurrogate => "lone leading surrogate in hex escape"
  | .endOfHexEscape => "unexpected end of hex escape"
  | .badCodePoint => "invalid unicode code point"
  | .badNumber => "invalid number"
  | .numberTooLarge => "number out of range"
  | .tooDeep => "recursion limit exceeded"

/-- A string or number token: sound, or with what a reader and a skipper have against it. -/
inductive Lexeme (α : Type) where
  | good (value : α)
  | flawed (read : Flaw) (skip : Option Flaw)
  deriving Repr

/-- What stands in place of a member's key. -/
inductive Key where
  | text (name : Lexeme String)
  /-- Something that is no string; the member's value is what was found there. -/
  | other
  deriving Repr

/-- How a list or object ends after its last item. -/
inductive Ending where
  | closed
  /-- The text ends. -/
  | missing
  /-- Something other than a comma or the closing bracket follows. -/
  | unseparated
  /-- The closing bracket follows a comma. -/
  | trailingComma
  /-- The text ends after a comma. -/
  | commaAtEnd
  deriving Repr, DecidableEq

/-- A text as far as it can be read. A broken part is always the last one inside its container. -/
inductive Doc where
  | null
  | bool (value : Bool)
  | num (value : Lexeme Number)
  | str (value : Lexeme String)
  | arr (items : List Doc) (ending : Ending)
  | obj (members : List (Key × Doc)) (ending : Ending)
  /-- A literal that is not spelled out. -/
  | misspelt (flaw : Flaw)
  /-- No value stands here, for the given reason. -/
  | broken (flaw : Flaw)
  deriving Inhabited

/-- What a reader has against the end of a list. -/
def Ending.inList : Ending → Option Flaw
  | .closed => none
  | .missing => some .endInList
  | .unseparated => some .noListSeparator
  | .trailingComma => some .commaAtClose
  | .commaAtEnd => some .endInValue

/-- What a reader has against the end of an object. -/
def Ending.inObject : Ending → Option Flaw
  | .closed => none
  | .missing => some .endInObject
  | .unseparated => some .noObjectSeparator
  | .trailingComma => some .commaAtClose
  | .commaAtEnd => some .endInValue

/-- What a skipper has against the end of a list. -/
def Ending.inSkippedList : Ending → Option Flaw
  | .trailingComma => some .noValue
  | e => e.inList

/-- What a skipper has against the end of an object. -/
def Ending.inSkippedObject : Ending → Option Flaw
  | .trailingComma => some .keyNotString
  | .commaAtEnd => some .endInObject
  | e => e.inObject

/-- What a reader that has taken all it wants has against the rest of a list. -/
def Ending.afterEnough : Ending → Option Flaw
  | .closed => none
  | .missing => some .endInList
  | .trailingComma => some .commaAtClose
  | .unseparated | .commaAtEnd => some .textAfterValue

/-- What a skipper has against a token. -/
def Lexeme.skip {α : Type} : Lexeme α → Option Flaw
  | .good _ => none
  | .flawed _ s => s

mutual

/-- The first thing wrong with a value that is passed over unread. -/
def Doc.skip : Doc → Option Flaw
  | .null => none
  | .bool _ => none
  | .num n => n.skip
  | .str s => s.skip
  | .arr items ending => (skipItems items).or ending.inSkippedList
  | .obj members ending => (skipMembers members).or ending.inSkippedObject
  | .misspelt f => some f
  | .broken f => some f

/-- The first thing wrong with the items of a skipped list. -/
def skipItems : List Doc → Option Flaw
  | [] => none
  | d :: rest => d.skip.or (skipItems rest)

/-- The first thing wrong with the members of a skipped object. -/
def skipMembers : List (Key × Doc) → Option Flaw
  | [] => none
  | (.text k, d) :: rest => k.skip.or (d.skip.or (skipMembers rest))
  | (.other, _) :: _ => some .keyNotString

end

mutual

/-- A value as a sound text. -/
def Doc.ofJson : Json → Doc
  | .null => .null
  | .bool b => .bool b
  | .num n => .num (.good n)
  | .str s => .str (.good s)
  | .arr items => .arr (itemsOfJson items) .closed
  | .obj members => .obj (membersOfJson members) .closed

/-- The items of a list. -/
def itemsOfJson : List Json → List Doc
  | [] => []
  | v :: rest => Doc.ofJson v :: itemsOfJson rest

/-- The members of an object. -/
def membersOfJson : List (String × Json) → List (Key × Doc)
  | [] => []
  | (k, v) :: rest => (.text (.good k), Doc.ofJson v) :: membersOfJson rest

end

end Tenancy.Json
