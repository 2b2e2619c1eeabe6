import Tenancy.Json.Token

/-!
# Reading JSON texts

Every text, sound or broken, becomes a `Doc`. Where a text breaks off, nothing behind that place is
read. Each pair of calls of the reader passes over at least one glyph, so twice the length of the
text bounds the depth of the calls.
-/

namespace Tenancy.Json

/-- The blanks that may stand between tokens. -/
def isBlank (c : Char) : Bool := c = ' ' || c = '\n' || c = '\t' || c = '\r'

/-- The text without the blanks at its front. -/
def skipBlanks : List Glyph → List Glyph
  | some c :: rest => if isBlank c then skipBlanks rest else some c :: rest
  | gs => gs

/-- The rest of a literal: `value` if its letters follow. -/
def literal (value : Doc) : List Char → List Glyph → Doc × Option (List Glyph)
  | [], gs => (value, some gs)
  | _ :: _, [] => (.misspelt .endInValue, none)
  | c :: cs, g :: gs =>
    if g = some c then literal value cs gs else (.misspelt .noLiteral, none)

/-- A token, and the text behind it unless even a skipper stops there. -/
def ofLexeme {α : Type} (make : Lexeme α → Doc) (token : Lexeme α × List Glyph) :
    Doc × Option (List Glyph) :=
  (make token.1, if token.1.skip.isSome then none else some token.2)

mutual

/-- A value and the text behind it, if reading goes on there. -/
def readValue : Nat → List Glyph → Doc × Option (List Glyph)
  | 0, _ => (.broken .tooDeep, none)
  | fuel + 1, gs =>
    match skipBlanks gs with
    | [] => (.broken .endInValue, none)
    | none :: _ => (.broken .noValue, none)
    | some c :: rest =>
      if c = 'n' then literal .null ['u', 'l', 'l'] rest
      else if c = 't' then literal (.bool true) ['r', 'u', 'e'] rest
      else if c = 'f' then literal (.bool false) ['a', 'l', 's', 'e'] rest
      else if c = '"' then ofLexeme .str (stringToken rest)
      else if c = '-' || c.isDigit then ofLexeme .num (numberToken (some c :: rest))
      else if c = '[' then
        let (items, ending, more) := readItems fuel true rest
        (.arr items ending, more)
      else if c.toNat = 0x7B then
        let (members, ending, more) := readMembers fuel true rest
        (.obj members ending, more)
      else (.broken .noValue, none)

/-- The items of a list from behind its bracket or behind an item. -/
def readItems : Nat → Bool → List Glyph → List Doc × Ending × Option (List Glyph)
  | 0, _, _ => ([], .missing, none)
  | fuel + 1, first, gs =>
    let item (text : List Glyph) : List Doc × Ending × Option (List Glyph) :=
      match readValue fuel text with
      | (d, none) => ([d], .closed, none)
      | (d, some rest) =>
        let (ds, ending, more) := readItems fuel false rest
        (d :: ds, ending, more)
    match skipBlanks gs with
    | [] => ([], .missing, none)
    | g :: rest =>
      if g = some ']' then ([], .closed, some rest)
      else if first then item (g :: rest)
      else if g = some ',' then
        match skipBlanks rest with
        | [] => ([], .commaAtEnd, none)
        | h :: more => if h = some ']' then ([], .trailingComma, none) else item (h :: more)
      else ([], .unseparated, none)

/-- The members of an object from behind its brace or behind a member. -/
def readMembers : Nat → Bool → List Glyph → List (Key × Doc) × Ending × Option (List Glyph)
  | 0, _, _ => ([], .missing, none)
  | fuel + 1, first, gs =>
    let member (text : List Glyph) : List (Key × Doc) × Ending × Option (List Glyph) :=
      match text with
      | some '"' :: rest =>
        let (key, afterKey) := stringToken rest
        if key.skip.isSome then ([(.text key, .broken .endInObject)], .closed, none)
        else
          match skipBlanks afterKey with
          | [] => ([(.text key, .broken .endInObject)], .closed, none)
          | some ':' :: afterColon =>
            match readValue fuel afterColon with
            | (d, none) => ([(.text key, d)], .closed, none)
            | (d, some rest) =>
              let (ms, ending, more) := readMembers fuel false rest
              ((.text key, d) :: ms, ending, more)
          | _ => ([(.text key, .broken .noColon)], .closed, none)
      | _ => ([(.other, (readValue fuel text).1)], .closed, none)
    match skipBlanks gs with
    | [] => ([], .missing, none)
    | g :: rest =>
      if g.map Char.toNat = some 0x7D then ([], .closed, some rest)
      else if first then member (g :: rest)
      else if g = some ',' then
        match skipBlanks rest with
        | [] => ([], .commaAtEnd, none)
        | h :: more =>
          if h.map Char.toNat = some 0x7D then ([], .trailingComma, none) else member (h :: more)
      else ([], .unseparated, none)

end

/-- A text as a document, and whether something other than blanks follows its value. -/
def Doc.ofGlyphs (gs : List Glyph) : Doc × Bool :=
  let (d, rest) := readValue (2 * gs.length + 2) gs
  (d, match rest with
    | none => false
    | some more => !(skipBlanks more).isEmpty)

/-- The glyphs of a text that is known to be sound. -/
def glyphsOf (s : String) : List Glyph := s.toList.map some

end Tenancy.Json
