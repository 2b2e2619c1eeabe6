import Tenancy.Layer.Yaml.Cursor
import Tenancy.Text.Percent

/-!
# Scalars in a settings file

A scalar may run over several lines. Between its words a line's end is read as a blank, and empty
lines as line ends, so that long texts can be broken. In block scalars this is so for folded ones,
and only between lines that begin with no blank.
-/

namespace Tenancy.Layer.Yaml

/-- What stands between two words: blanks, or a line's end and the empty lines behind it. -/
structure Gap where
  blanks : List Char
  first : List Char
  more : List Char
  broken : Bool
  deriving Repr, DecidableEq

namespace Gap

/-- Nothing between words. -/
def none : Gap := ⟨[], [], [], false⟩

/-- What a gap reads as. -/
def text (g : Gap) : List Char :=
  if !g.broken then g.blanks
  else if g.first = ['\n'] then (if g.more.isEmpty then [' '] else g.more)
  else g.first ++ g.more

/-- A gap with a blank more; blanks at the front of a line do not count. -/
def addBlank (g : Gap) (c : Char) : Gap :=
  if g.broken then g else { g with blanks := g.blanks ++ [c] }

/-- A gap with a line's end more; blanks before it do not count. -/
def addBreak (g : Gap) (text : List Char) : Gap :=
  if g.broken then { g with more := g.more ++ text } else ⟨[], text, [], true⟩

end Gap

/-- Reads a gap. A tab may not stand left of the column `least` of a new line. -/
def readGap (least : Nat) : Nat → Gap → Cursor → Option (Gap × Cursor)
  | 0, g, s => some (g, s)
  | fuel + 1, g, s =>
    match s.rest with
    | [] => some (g, s)
    | c :: _ =>
      if isBlank c then
        if g.broken && s.column < least && c = '\t' then none
        else readGap least fuel (g.addBlank c) s.step
      else if isBreak c then
        let (text, s) := s.takeBreak
        readGap least fuel (g.addBreak text) s
      else some (g, s)

/-! ## Plain scalars -/

/-- Reads a word of a plain scalar. Inside brackets a bracket or comma ends it too, and a colon may
not stand right before one. -/
def plainWord (inBrackets : Bool) : Nat → Cursor → Option (List Char × Cursor)
  | 0, s => some ([], s)
  | fuel + 1, s =>
    match s.rest with
    | [] => some ([], s)
    | c :: rest =>
      let next := rest.headD ' '
      if isBlank c || isBreak c then some ([], s)
      else if inBrackets && c = ':' && (next = ',' || next = '?' || isBracket next) then none
      else if (c = ':' && s.endsWordAt 1) || (inBrackets && (c = ',' || isBracket c)) then
        some ([], s)
      else (plainWord inBrackets fuel s.step).map fun (cs, s) => (c :: cs, s)

/-- Reads the words of a plain scalar behind those in `text`, with the gap before them. Also says
whether the scalar was followed by the end of its line. -/
def plainWords (inBrackets : Bool) (least : Nat) :
    Nat → List Char → Gap → Cursor → Option (List Char × Bool × Cursor)
  | 0, _, _, _ => none
  | fuel + 1, text, gap, s =>
    if s.isAtDocumentMark || s.isAt (· = '#') then some (text, gap.broken, s)
    else do
      let (word, s) ← plainWord inBrackets s.rest.length s
      let text := if word.isEmpty then text else text ++ gap.text ++ word
      let broken := word.isEmpty && gap.broken
      if !s.isAt (fun c => isBlank c || isBreak c) then return (text, broken, s)
      let (gap, s) ← readGap least s.rest.length .none s
      if !inBrackets && s.column < least then return (text, gap.broken, s)
      plainWords inBrackets least fuel text gap s

/-- Reads a plain scalar. -/
def plain? (inBrackets : Bool) (least : Nat) (s : Cursor) : Option (List Char × Bool × Cursor) :=
  plainWords inBrackets least (s.rest.length + 1) [] .none s

/-! ## Quoted scalars -/

/-- The character of a one-letter escape. -/
def escaped? (c : Char) : Option Char :=
  [('0', 0), ('a', 7), ('b', 8), ('t', 9), ('\t', 9), ('n', 10), ('v', 11), ('f', 12), ('r', 13),
   ('e', 27), (' ', 32), ('"', 34), ('/', 47), ('\\', 92), ('N', 0x85), ('_', 0xA0), ('L', 0x2028),
   ('P', 0x2029)].lookup c |>.map Char.ofNat

/-- How many hexadecimal digits follow an escape. -/
def escapeWidth? (c : Char) : Option Nat := [('x', 2), ('u', 4), ('U', 8)].lookup c

/-- The value of a digit in a base up to 16. -/
def digit? (base : Nat) (c : Char) : Option Nat := (Percent.value? c).filter (· < base)

/-- Digits of a base as a number; there has to be one. -/
def digitsIn? (base : Nat) (cs : List Char) : Option Nat :=
  if cs.isEmpty then none
  else cs.foldlM (fun n c => (digit? base c).map (n * base + ·)) 0

/-- Reads an escape behind its backslash. -/
def escape? (s : Cursor) : Option (Char × Cursor) := do
  let e ← s.rest.head?
  match escapeWidth? e with
  | some width =>
    let digits := s.step.rest.take width
    if digits.length < width then none
    let n ← digitsIn? 16 digits
    if n.isValidChar then some (Char.ofNat n, s.steps (width + 1)) else none
  | none => (escaped? e).map fun c => (c, s.step)

/-- Reads a word of a scalar between quotes, up to a gap or the closing quote. Also says whether a
backslash at the end of its line ended it. -/
def quotedWord (quote : Char) : Nat → Cursor → Option (List Char × Bool × Cursor)
  | 0, s => some ([], false, s)
  | fuel + 1, s =>
    match s.rest with
    | [] => some ([], false, s)
    | c :: rest =>
      let onward (c : Char) (s : Cursor) :=
        (quotedWord quote fuel s).map fun (cs, broke, s) => (c :: cs, broke, s)
      if isBlank c || isBreak c then some ([], false, s)
      else if quote = '\'' && c = quote && rest.head? = some quote then onward c (s.steps 2)
      else if c = quote then some ([], false, s)
      else if quote = '"' && c = '\\' then
        if s.step.isAt isBreak then some ([], true, s.step.takeBreak.2)
        else do
          let (c, s) ← escape? s.step
          onward c s
      else onward c s.step

/-- Reads a scalar between quotes behind the words in `text`. -/
def quotedWords (quote : Char) : Nat → List Char → Cursor → Option (List Char × Cursor)
  | 0, _, _ => none
  | fuel + 1, text, s =>
    if s.isAtDocumentMark || s.rest.isEmpty then none
    else do
      let (word, broke, s) ← quotedWord quote s.rest.length s
      if s.isAt (· = quote) then return (text ++ word, s.step)
      let (gap, s) ← readGap 0 s.rest.length { Gap.none with broken := broke } s
      quotedWords quote fuel (text ++ word ++ gap.text) s

/-- Reads a scalar from its opening quote on. -/
def quoted? (quote : Char) (s : Cursor) : Option (List Char × Cursor) :=
  quotedWords quote (s.rest.length + 2) [] s.step

/-! ## Block scalars -/

/-- What becomes of the line ends at the end of a block scalar. -/
inductive Tail where
  | drop
  | one
  | keep
  deriving Repr, DecidableEq

/-- How a block scalar is introduced. -/
structure Header where
  literal : Bool
  tail : Tail
  /-- How far the text is indented, if that is said. -/
  indent : Option Nat
  deriving Repr, DecidableEq

/-- The sign that says what becomes of the last line ends. -/
def tail? (c : Char) : Option Tail :=
  if c = '+' then some .keep else if c = '-' then some .drop else none

/-- The digit that says how far a text is indented; it is not zero. -/
def indent? (c : Char) : Option Nat :=
  if c.isDigit && c ≠ '0' then some (c.toNat - 48) else none

/-- Reads what introduces a block scalar, up to the end of its line. -/
def header? (literal : Bool) (s : Cursor) : Option (Header × Cursor) := do
  let signs := s.rest.takeWhile fun c => c = '+' || c = '-' || c.isDigit
  let (tail, indent) ← match signs with
    | [] => some (none, none)
    | [c] => if c.isDigit then (indent? c).map fun n => (none, some n) else some (tail? c, none)
    | [c, d] =>
      if c.isDigit && !d.isDigit then (indent? c).map fun n => (tail? d, some n)
      else if !c.isDigit && d.isDigit then (indent? d).map fun n => (tail? c, some n)
      else none
    | _ => none
  let s ← (s.steps signs.length).restOfLine?
  return (⟨literal, tail.getD .one, indent⟩, s)

/-- Reads empty lines and the indentation of the next one. An indentation that is not known yet is
the deepest one seen, which the third argument keeps. -/
def emptyLines (indent : Option Nat) :
    Nat → Nat → List Char → Cursor → Option (List Char × Nat × Cursor)
  | 0, deepest, text, s => some (text, deepest, s)
  | fuel + 1, deepest, text, s =>
    let within (column : Nat) : Bool := (indent.map fun n => decide (column < n)).getD true
    let blanks := (s.rest.takeWhile (· = ' ')).length
    let taken := (indent.map fun n => min blanks (n - s.column)).getD blanks
    let s := s.steps taken
    let deepest := max deepest s.column
    if within s.column && s.isAt (· = '\t') then none
    else if s.isAt isBreak then
      let (b, s) := s.takeBreak
      emptyLines indent fuel deepest (text ++ b) s
    else some (text, deepest, s)

/-- Reads the lines of a block scalar that are indented by `indent`. `text` is what has been read,
`last` the end of the line before, `empty` the empty lines behind it, and `blankFirst` whether it
began with a blank. -/
def blockLines (header : Header) (indent : Nat) :
    Nat → List Char → List Char → List Char → Bool → Cursor → Option (List Char × Cursor)
  | 0, _, _, _, _, _ => none
  | fuel + 1, text, last, empty, blankFirst, s =>
    if s.column = indent && !s.rest.isEmpty then do
      let blank := s.isAt isBlank
      let folds := !header.literal && last = ['\n'] && !blankFirst && !blank
      let between := if folds then (if empty.isEmpty then [' '] else []) else last
      let (line, s) := s.takeWhile fun c => !isBreak c
      let (last, s) := s.takeBreak
      let (more, _, s) ← emptyLines (some indent) (s.rest.length + 1) 0 [] s
      blockLines header indent fuel (text ++ between ++ empty ++ line) last more blank s
    else
      return (match header.tail with
        | .drop => text
        | .one => text ++ last
        | .keep => text ++ last ++ empty, s)

/-- Reads a block scalar behind its indicator, inside a block indented by `outer`, if any. -/
def blockScalar? (literal : Bool) (outer : Option Nat) (s : Cursor) :
    Option (List Char × Cursor) := do
  let (header, s) ← header? literal s
  let said := header.indent.map fun n => outer.getD 0 + n
  let (empty, deepest, s) ← emptyLines said (s.rest.length + 1) 0 [] s
  let least := (outer.map (· + 1)).getD 0
  let indent := said.getD (max 1 (max deepest least))
  blockLines header indent (s.rest.length + 2) [] [] empty false s

end Tenancy.Layer.Yaml
