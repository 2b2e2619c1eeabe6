/-!
# Places in a settings file

A cursor stands between two characters of a file and knows its line and column. Lines end at any of
five characters; a carriage return and the line feed behind it end one line together.
-/

namespace Tenancy.Layer.Yaml

/-- Whether a character ends a line. -/
def isBreak (c : Char) : Bool :=
  c = '\n' || c = '\r' || c.toNat = 0x85 || c.toNat = 0x2028 || c.toNat = 0x2029

/-- Blanks within a line. -/
def isBlank (c : Char) : Bool := c = ' ' || c = '\t'

/-- Whether a character may stand in the name of an anchor. -/
def isNameChar (c : Char) : Bool := c.isAlphanum || c = '_' || c = '-'

/-- Whether a file may contain a character at all: controls and what is no character may not. -/
def isAllowed (c : Char) : Bool :=
  let n := c.toNat
  isBlank c || isBreak c || (0x20 ≤ n && n ≤ 0x7E) || (0xA0 ≤ n && n ≤ 0xD7FF)
    || (0xE000 ≤ n && n ≤ 0xFFFD) || 0x10000 ≤ n

/-- The opening and closing brackets of mappings. -/
def openBrace : Char := Char.ofNat 0x7B

/-- The closing bracket of mappings. -/
def closeBrace : Char := Char.ofNat 0x7D

/-- Opens or closes a collection in brackets. -/
def isBracket (c : Char) : Bool := c = '[' || c = ']' || c = openBrace || c = closeBrace

/-- A place in a file: what follows, and where it is. -/
structure Cursor where
  rest : List Char
  line : Nat
  column : Nat
  index : Nat
  deriving Repr, DecidableEq

namespace Cursor

/-- The front of a text. -/
def start (text : List Char) : Cursor := ⟨text, 0, 0, 0⟩

/-- Whether the next character is of a kind. -/
def isAt (s : Cursor) (p : Char → Bool) : Bool := (s.rest.head?.map p).getD false

/-- Whether a word ends `n` characters ahead: at a blank, a line's end or the end of the file. -/
def endsWordAt (s : Cursor) (n : Nat) : Bool :=
  (s.rest[n]?.map fun c => isBlank c || isBreak c).getD true

/-- Behind the next character. -/
def step (s : Cursor) : Cursor := ⟨s.rest.drop 1, s.line, s.column + 1, s.index + 1⟩

/-- Behind the next `n` characters. -/
def steps (s : Cursor) (n : Nat) : Cursor := ⟨s.rest.drop n, s.line, s.column + n, s.index + n⟩

/-- The end of a line as text, and the place behind it; the usual ends all read as a line feed. -/
def takeBreak (s : Cursor) : List Char × Cursor :=
  match s.rest with
  | '\r' :: '\n' :: rest => (['\n'], ⟨rest, s.line + 1, 0, s.index + 2⟩)
  | c :: rest =>
    if isBreak c then
      ([if c.toNat < 0x100 then '\n' else c], ⟨rest, s.line + 1, 0, s.index + 1⟩)
    else ([], s)
  | [] => ([], s)

/-- Behind the characters of a kind. -/
def skipWhile (s : Cursor) (p : Char → Bool) : Cursor := s.steps (s.rest.takeWhile p).length

/-- The characters of a kind, and the place behind them. -/
def takeWhile (s : Cursor) (p : Char → Bool) : List Char × Cursor :=
  let cs := s.rest.takeWhile p
  (cs, s.steps cs.length)

/-- Whether a line begins with three characters that stand alone. -/
def isAtMark (s : Cursor) (mark : Char) : Bool :=
  s.column = 0 && s.rest.take 3 = [mark, mark, mark] && s.endsWordAt 3

/-- Whether a document begins or ends here by a mark of its own. -/
def isAtDocumentMark (s : Cursor) : Bool := s.isAtMark '-' || s.isAtMark '.'

/-- Behind blanks and a comment, if the line ends there. -/
def restOfLine? (s : Cursor) : Option Cursor :=
  let s := s.skipWhile isBlank
  let s := if s.isAt (· = '#') then s.skipWhile (fun c => !isBreak c) else s
  if s.rest.isEmpty || s.isAt isBreak then some s.takeBreak.2 else none

end Cursor

end Tenancy.Layer.Yaml
