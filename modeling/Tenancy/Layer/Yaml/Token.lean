import Tenancy.Layer.Yaml.Scalar
import Tenancy.Text.Percent

/-!
# Tokens of a settings file

A file is cut into tokens from its front. Blocks have no brackets of their own: a block opens where
the indentation grows and closes where it falls back. Whether a piece of text is a key shows only at
the colon behind it, so the place where a key may have begun is kept, and its token is put there
when the colon comes. Such a key stands on one line and is no longer than 1024 characters.
-/

namespace Tenancy.Layer.Yaml

/-- A token. -/
inductive Token where
  | version (major minor : Nat)
  | handle (name stem : String)
  | documentStart
  | documentEnd
  | blockSequenceStart
  | blockMappingStart
  | blockEnd
  | flowSequenceStart
  | flowSequenceEnd
  | flowMappingStart
  | flowMappingEnd
  | blockEntry
  | flowEntry
  | key
  | value
  /-- A node that was given a name before. -/
  | reference (name : String)
  | anchor (name : String)
  | tag (handle suffix : String)
  | scalar (plain : Bool) (text : String)
  deriving Repr, DecidableEq

/-- A place where a key may have begun: the token in front of which it would be put, and whether
only a key can stand there. -/
structure KeyStart where
  number : Nat
  required : Bool
  line : Nat
  column : Nat
  index : Nat
  deriving Repr, DecidableEq

/-- How far a file has been cut into tokens. -/
structure Lexer where
  cursor : Cursor
  tokens : Array Token
  /-- The columns of the open blocks, the innermost first. -/
  blocks : List Nat
  /-- Where a key may have begun, and the same for every open bracket around. -/
  keyStart : Option KeyStart
  outer : List (Option KeyStart)
  /-- Whether a key may begin here. -/
  mayBeKey : Bool

namespace Lexer

/-- Nothing has been cut yet. -/
def start (text : List Char) : Lexer := ⟨.start text, #[], [], none, [], true⟩

/-- Whether the next token stands inside brackets. -/
def inBrackets (s : Lexer) : Bool := !s.outer.isEmpty

/-- With a token more. -/
def emit (t : Token) (s : Lexer) : Lexer := { s with tokens := s.tokens.push t }

/-- With a token put in front of the one with a number. -/
def emitAt (number : Nat) (t : Token) (s : Lexer) : Lexer :=
  { s with tokens := (s.tokens.extract 0 number).push t ++ s.tokens.extract number s.tokens.size }

/-- Behind some characters. -/
def skip (n : Nat) (s : Lexer) : Lexer := { s with cursor := s.cursor.steps n }

/-- Says whether a key may begin at the next token. -/
def keyNext (may : Bool) (s : Lexer) : Lexer := { s with mayBeKey := may }

/-- Closes the blocks right of a column; all of them if none is given. -/
def closeBlocks (column : Option Nat) (s : Lexer) : Lexer :=
  if s.inBrackets then s
  else
    let isOver (b : Nat) : Bool := (column.map fun c => decide (c < b)).getD true
    let closed := s.blocks.takeWhile isOver
    { s with
      blocks := s.blocks.drop closed.length
      tokens := s.tokens ++ (closed.map fun _ => Token.blockEnd).toArray }

/-- Opens a block at a column that is right of all open ones, by a token in front of the one with a
number. -/
def openBlock (column number : Nat) (t : Token) (s : Lexer) : Lexer :=
  if !s.inBrackets && (s.blocks.head?.map fun b => decide (b < column)).getD true then
    { s.emitAt number t with blocks := column :: s.blocks }
  else s

/-- No key has begun here after all. -/
def dropKey? (s : Lexer) : Option Lexer :=
  if (s.keyStart.map (·.required)).getD false then none else some { s with keyStart := none }

/-- A key may begin here. Where a line of the innermost block begins, it has to. -/
def markKey? (s : Lexer) : Option Lexer := do
  if !s.mayBeKey then return s
  let required := !s.inBrackets && s.blocks.head? = some s.cursor.column
  let s ← s.dropKey?
  let c := s.cursor
  return { s with keyStart := some ⟨s.tokens.size, required, c.line, c.column, c.index⟩ }

/-- How many characters a key may have that shows only at its colon. -/
def keyLimit : Nat := 1024

/-- Gives up a key whose line has ended or that has become too long. -/
def refresh? (c : Cursor) : Option KeyStart → Option (Option KeyStart)
  | none => some none
  | some k =>
    if k.line < c.line || k.index + keyLimit < c.index then (if k.required then none else some none)
    else some (some k)

/-- Gives up all keys that can no longer be. -/
def refreshKeys? (s : Lexer) : Option Lexer := do
  let keyStart ← refresh? s.cursor s.keyStart
  let outer ← s.outer.mapM (refresh? s.cursor)
  return { s with keyStart := keyStart, outer := outer }

/-- Behind blanks, comments and line ends. Tabs count as blanks only where no key may begin. -/
def skipToToken : Nat → Lexer → Lexer
  | 0, s => s
  | fuel + 1, s =>
    let marked := s.cursor.column = 0 && s.cursor.isAt (·.toNat = 0xFEFF)
    let c := if marked then s.cursor.step else s.cursor
    let tabs := s.inBrackets || !s.mayBeKey
    let c := c.skipWhile fun x => x = ' ' || (tabs && x = '\t')
    let c := if c.isAt (· = '#') then c.skipWhile (fun x => !isBreak x) else c
    if c.isAt isBreak then
      skipToToken fuel { s with cursor := c.takeBreak.2, mayBeKey := s.mayBeKey || !s.inBrackets }
    else { s with cursor := c }

/-! ## Directives and tags -/

/-- A character that may stand in a tag; inside angle brackets a few more may. -/
def isTagChar (verbatim : Bool) (c : Char) : Bool :=
  isNameChar c || [';', '/', '?', ':', '@', '&', '=', '+', '$', '.', '%', '!', '~', '*', '\'', '(',
    ')'].contains c || (verbatim && (c = ',' || c = '[' || c = ']'))

/-- Whether every percent sign of a tag is followed by two hexadecimal digits. -/
def escapesSound : List Char → Bool
  | '%' :: a :: b :: rest => (digit? 16 a).isSome && (digit? 16 b).isSome && escapesSound rest
  | '%' :: _ => false
  | _ :: rest => escapesSound rest
  | [] => true

/-- Reads what follows the handle of a tag. -/
def tagText? (verbatim : Bool) (c : Cursor) : Option (List Char × Cursor) := do
  let (text, c) := c.takeWhile (isTagChar verbatim)
  if !escapesSound text then none
  let plain ← Utf8.decode? (Percent.decode (Utf8.encode (String.ofList text)))
  return (plain.toList, c)

/-- Reads an exclamation mark, a name, and another exclamation mark if one follows. -/
def tagHandle (c : Cursor) : List Char × Cursor :=
  let (name, c) := c.step.takeWhile isNameChar
  if c.isAt (· = '!') then ('!' :: name ++ ['!'], c.step) else ('!' :: name, c)

/-- Reads a tag. -/
def tag? (c : Cursor) : Option (Token × Cursor) :=
  if c.step.isAt (· = '<') then do
    let (text, c) ← tagText? true (c.steps 2)
    if text.isEmpty || !c.isAt (· = '>') then none
    return (.tag "" (String.ofList text), c.step)
  else do
    let (handle, c) := tagHandle c
    let (text, c) ← tagText? false c
    if 1 < handle.length && handle.getLast? = some '!' then
      if text.isEmpty then none else return (.tag (String.ofList handle) (String.ofList text), c)
    else
      let suffix := handle.drop 1 ++ text
      return (if suffix.isEmpty then .tag "" "!" else .tag "!" (String.ofList suffix), c)

/-- Reads a number of a version. -/
def versionNumber? (c : Cursor) : Option (Nat × Cursor) :=
  let (digits, c) := c.takeWhile Char.isDigit
  if 9 < digits.length then none else (digitsIn? 10 digits).map fun n => (n, c)

/-- Reads a directive and the rest of its line. -/
def directive? (c : Cursor) : Option (Token × Cursor) := do
  let (name, c) := c.step.takeWhile isNameChar
  if !c.endsWordAt 0 then none
  let c := c.skipWhile isBlank
  if name = ['Y', 'A', 'M', 'L'] then
    let (major, c) ← versionNumber? c
    if !c.isAt (· = '.') then none
    let (minor, c) ← versionNumber? c.step
    return (.version major minor, ← c.restOfLine?)
  else if name = ['T', 'A', 'G'] then
    if !c.isAt (· = '!') then none
    let (handle, c) := tagHandle c
    if 1 < handle.length && handle.getLast? ≠ some '!' then none
    if !c.isAt isBlank then none
    let (stem, c) ← tagText? true (c.skipWhile isBlank)
    if stem.isEmpty || !c.endsWordAt 0 then none
    return (.handle (String.ofList handle) (String.ofList stem), ← c.restOfLine?)
  else none

/-! ## Tokens one by one -/

/-- A token that closes all blocks and begins or ends a document or belongs to its head. -/
def fetchOuter? (t : Token) (c : Cursor) (s : Lexer) : Option Lexer := do
  let s ← (s.closeBlocks none).dropKey?
  return ({ s with cursor := c, mayBeKey := false } : Lexer).emit t

/-- An opening bracket. -/
def fetchOpening? (t : Token) (s : Lexer) : Option Lexer := do
  let s ← s.markKey?
  let inside : Lexer := { s with keyStart := none, outer := s.keyStart :: s.outer }
  return ((inside.keyNext true).skip 1).emit t

/-- A closing bracket. -/
def fetchClosing? (t : Token) (s : Lexer) : Option Lexer := do
  let s ← s.dropKey?
  let s := match s.outer with
    | [] => s
    | k :: rest => { s with keyStart := k, outer := rest }
  return ((s.keyNext false).skip 1).emit t

/-- A comma between items in brackets. -/
def fetchComma? (s : Lexer) : Option Lexer := do
  return (((← s.dropKey?).keyNext true).skip 1).emit .flowEntry

/-- The dash before an item of a block. -/
def fetchDash? (s : Lexer) : Option Lexer := do
  if !s.inBrackets && !s.mayBeKey then none
  let s := s.openBlock s.cursor.column s.tokens.size .blockSequenceStart
  return (((← s.dropKey?).keyNext true).skip 1).emit .blockEntry

/-- The question mark before a key of any kind. -/
def fetchKey? (s : Lexer) : Option Lexer := do
  if !s.inBrackets && !s.mayBeKey then none
  let s := s.openBlock s.cursor.column s.tokens.size .blockMappingStart
  let s ← s.dropKey?
  return ((s.keyNext !s.inBrackets).skip 1).emit .key

/-- The colon before a value. -/
def fetchValue? (s : Lexer) : Option Lexer :=
  match s.keyStart with
  | some k =>
    let s := (s.emitAt k.number .key).openBlock k.column k.number .blockMappingStart
    some (((({ s with keyStart := none } : Lexer).keyNext false).skip 1).emit .value)
  | none => do
    if !s.inBrackets && !s.mayBeKey then none
    let s := s.openBlock s.cursor.column s.tokens.size .blockMappingStart
    return ((s.keyNext !s.inBrackets).skip 1).emit .value

/-- An anchor, or a reference to one. -/
def fetchName? (make : String → Token) (s : Lexer) : Option Lexer := do
  let s ← s.markKey?
  let (name, c) := s.cursor.step.takeWhile isNameChar
  let ends := c.endsWordAt 0 || c.isAt fun x =>
    ['?', ':', ',', ']', closeBrace, '%', '@', Char.ofNat 0x60].contains x
  if name.isEmpty || !ends then none
  return (({ s with cursor := c } : Lexer).keyNext false).emit (make (String.ofList name))

/-- A tag. -/
def fetchTag? (s : Lexer) : Option Lexer := do
  let s ← s.markKey?
  let (t, c) ← tag? s.cursor
  if !c.endsWordAt 0 && !(s.inBrackets && c.isAt (· = ',')) then none
  return (({ s with cursor := c } : Lexer).keyNext false).emit t

/-- A block scalar. -/
def fetchBlock? (literal : Bool) (s : Lexer) : Option Lexer := do
  let s ← s.dropKey?
  let (text, c) ← blockScalar? literal s.blocks.head? s.cursor.step
  return (({ s with cursor := c } : Lexer).keyNext true).emit (.scalar false (String.ofList text))

/-- A scalar between quotes. -/
def fetchQuoted? (quote : Char) (s : Lexer) : Option Lexer := do
  let s ← s.markKey?
  let (text, c) ← quoted? quote s.cursor
  return (({ s with cursor := c } : Lexer).keyNext false).emit (.scalar false (String.ofList text))

/-- A plain scalar. -/
def fetchPlain? (s : Lexer) : Option Lexer := do
  let s ← s.markKey?
  let least := (s.blocks.head?.map (· + 1)).getD 0
  let (text, lineEnded, c) ← plain? s.inBrackets least s.cursor
  let s := ({ s with cursor := c } : Lexer).keyNext lineEnded
  return s.emit (.scalar true (String.ofList text))

/-- Whether a plain scalar may begin here. -/
def mayBePlain (s : Lexer) (c : Char) : Bool :=
  let mark := ['-', '?', ':', ',', '#', '&', '*', '!', '|', '>', '\'', '"', '%', '@',
    Char.ofNat 0x60].contains c || isBracket c
  !(isBlank c || mark)
    || (c = '-' && !(s.cursor.rest[1]?.map isBlank).getD false)
    || (!s.inBrackets && (c = '?' || c = ':') && !s.cursor.endsWordAt 1)

/-- Cuts the token that begins with the given character. -/
def fetch? (c : Char) (s : Lexer) : Option Lexer :=
  let wordEnds := s.cursor.endsWordAt 1
  if s.cursor.column = 0 && c = '%' then do
    let (t, cursor) ← directive? s.cursor
    s.fetchOuter? t cursor
  else if s.cursor.isAtMark '-' then s.fetchOuter? .documentStart (s.cursor.steps 3)
  else if s.cursor.isAtMark '.' then s.fetchOuter? .documentEnd (s.cursor.steps 3)
  else if c = '[' then s.fetchOpening? .flowSequenceStart
  else if c = openBrace then s.fetchOpening? .flowMappingStart
  else if c = ']' then s.fetchClosing? .flowSequenceEnd
  else if c = closeBrace then s.fetchClosing? .flowMappingEnd
  else if c = ',' then s.fetchComma?
  else if c = '-' && wordEnds then s.fetchDash?
  else if c = '?' && (s.inBrackets || wordEnds) then s.fetchKey?
  else if c = ':' && (s.inBrackets || wordEnds) then s.fetchValue?
  else if c = '*' then s.fetchName? .reference
  else if c = '&' then s.fetchName? .anchor
  else if c = '!' then s.fetchTag?
  else if c = '|' && !s.inBrackets then s.fetchBlock? true
  else if c = '>' && !s.inBrackets then s.fetchBlock? false
  else if c = '\'' || c = '"' then s.fetchQuoted? c
  else if s.mayBePlain c then s.fetchPlain?
  else none

/-- Closes what is open at the end of a file. -/
def finish? (s : Lexer) : Option (Array Token) :=
  ((s.closeBlocks none).dropKey?).map (·.tokens)

/-- Cuts tokens until the file ends. Every round passes over a character. -/
def run? : Nat → Lexer → Option (Array Token)
  | 0, _ => none
  | fuel + 1, s => do
    let s := s.skipToToken (s.cursor.rest.length + 1)
    let s := (← s.refreshKeys?).closeBlocks (some s.cursor.column)
    match s.cursor.rest with
    | [] => s.finish?
    | c :: _ => run? fuel (← s.fetch? c)

end Lexer

/-- The tokens of a file. -/
def tokens? (text : List Char) : Option (List Token) :=
  if text.all isAllowed then ((Lexer.start text).run? (text.length + 2)).map Array.toList else none

end Tenancy.Layer.Yaml
