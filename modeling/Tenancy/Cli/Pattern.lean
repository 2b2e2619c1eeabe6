import Tenancy.Cli.Pattern.Flaw
import Tenancy.Text.Percent
import Tenancy.Unicode.Letter

/-!
# Patterns in log filters

A log filter may ask for the value of a field by a pattern. Nothing is matched here: a pattern is
only read to find out whether it is well-formed. Since it stands inside a filter, it has no comma,
no equals sign and no closing brace, so a repetition that is counted in braces never ends.

Flaws of form come before flaws of meaning, wherever they are.
-/

namespace Tenancy.Cli.Pattern

/-- What may be said about the parts of a group: whether letters stand for both their cases, whether
the pattern is about characters or about octets, and whether blanks and comments are passed over. -/
structure Flags where
  fold : Bool
  characters : Bool
  spaced : Bool
  deriving DecidableEq, Repr

/-- How far a pattern has been read. -/
structure Reading where
  rest : List Char
  column : Nat
  flags : Flags
  /-- The open groups: where they open, and the flags around them. -/
  groups : List (Nat × Flags)
  /-- Whether something that can be repeated stands right before. -/
  operand : Bool
  names : List (List Char × Span)
  /-- The first flaw of meaning. -/
  meaning : Option Complaint
  /-- Whether an edge between characters of words and others is asked for. -/
  wordEdge : Bool

/-- A step of the reader. -/
abbrev Read := StateT Reading (Except Complaint)

/-- The column of the next character. -/
def here : Read Nat := return (← get).column

/-- The next character. -/
def peek? : Read (Option Char) := return (← get).rest.head?

/-- A flaw of form. -/
def fail {α : Type} (first last : Nat) (f : Flaw) : Read α := throw ⟨f, [⟨first, last⟩]⟩

/-- Passes over a character. -/
def bump : Read Unit :=
  modify fun r => { r with rest := r.rest.drop 1, column := r.column + min 1 r.rest.length }

/-- Behind blanks and comments. -/
def behindIdle : Nat → List Char → List Char
  | 0, cs => cs
  | fuel + 1, cs =>
    match cs with
    | [] => []
    | c :: rest =>
      if Unicode.isBlank c then behindIdle fuel rest
      else if c = '#' then behindIdle fuel ((rest.dropWhile (· ≠ '\n')).drop 1)
      else cs

/-- Passes over blanks and comments where they say nothing. -/
def skipIdle : Read Unit :=
  modify fun r =>
    if r.flags.spaced then
      let rest := behindIdle r.rest.length r.rest
      { r with rest := rest, column := r.column + (r.rest.length - rest.length) }
    else r

/-- Passes over a character and what says nothing behind it. -/
def step : Read Unit := do
  bump
  skipIdle

/-- Passes over the characters of a kind; they are the result. -/
def stepWhile (p : Char → Bool) : Nat → Read (List Char)
  | 0 => return []
  | fuel + 1 => do
    match ← peek? with
    | some c =>
      if p c then
        step
        return c :: (← stepWhile p fuel)
      return []
    | none => return []

/-- Passes over a text if it follows; says whether it did. -/
def passed (text : String) : Read Bool := do
  let r ← get
  if text.toList.isPrefixOf r.rest then
    set { r with rest := r.rest.drop text.length, column := r.column + text.length }
    return true
  return false

/-- Something that can be repeated has been read, or nothing of the kind. -/
def setOperand (is : Bool) : Read Unit := modify fun r => { r with operand := is }

/-! ## Single characters and classes -/

/-- What stands for one character or for a place between characters. -/
inductive Atom where
  | literal (c : Char)
  /-- A character given by the two digits of its octet. -/
  | octet (n : Nat)
  | shorthand (negated : Bool)
  | property
  | wordEdge
  | edge
  | any
  deriving DecidableEq, Repr

/-- What is wrong with the meaning of an atom. There are no tables of the letters of all scripts. -/
def Atom.flaw? (flags : Flags) (inClass : Bool) (a : Atom) : Option Flaw :=
  if flags.characters then
    match a with
    | .literal _ | .octet _ => if flags.fold && !inClass then some .foldingUnknown else none
    | .shorthand _ => some .shorthandUnknown
    | .property => some .propertyUnknown
    | _ => none
  else
    match a with
    | .literal c => if inClass && 128 ≤ c.toNat then some .notForOctets else none
    | .octet n => if 128 ≤ n then some .notText else none
    | .shorthand negated => if negated then some .notText else none
    | .property => some .notForOctets
    | .any => some .notText
    | _ => none

/-- What is wrong with the meaning of a class. -/
def classFlaw? (flags : Flags) (negated : Bool) : Option Flaw :=
  if flags.characters then (if flags.fold then some .foldingUnknown else none)
  else if negated then some .notText
  else none

/-- Keeps the first flaw of meaning. -/
def object (span : Span) (flaw : Option Flaw) : Read Unit :=
  modify fun r => { r with meaning := r.meaning.or (flaw.map fun f => ⟨f, [span]⟩) }

/-- Keeps what is to be known about an atom. -/
def keep (inClass : Bool) (span : Span) (a : Atom) : Read Unit := do
  object span (a.flaw? (← get).flags inClass)
  modify fun r => { r with wordEdge := r.wordEdge || (a = .wordEdge && r.flags.characters) }

/-- Whether a character is a hexadecimal digit. -/
def isHex (c : Char) : Bool := (Percent.value? c).isSome

/-- Reads a number of hexadecimal digits. -/
def hexDigits : Nat → Read (List Char)
  | 0 => return []
  | n + 1 => do
    let place ← here
    let some c ← peek? | fail place place .escapeEnds
    if !isHex c then fail place (place + 1) .hexDigit
    step
    return c :: (← hexDigits n)

/-- Reads a character given by its number, from the letter behind the backslash on. -/
def numbered (letter : Char) : Read Atom := do
  step
  let start ← here
  let some c ← peek? | fail start start .escapeEnds
  if c.toNat = 0x7B then
    step
    let _ ← stepWhile isHex (← get).rest.length
    let place ← here
    if (← peek?).isSome then fail place (place + 1) .hexDigit
    fail start place .escapeEnds
  let digits ← hexDigits (if letter = 'x' then 2 else if letter = 'u' then 4 else 8)
  let n := digits.foldl (fun n d => n * 16 + (Percent.value? d).getD 0) 0
  if !decide n.isValidChar then fail start (← here) .hexValue
  return if letter = 'x' then .octet n else .literal (Char.ofNat n)

/-- Reads the property that a class of characters is given by. -/
def property : Read Atom := do
  step
  let place ← here
  let some c ← peek? | fail place place .escapeEnds
  if c.toNat = 0x7B then
    step
    let _ ← stepWhile (fun _ => true) (← get).rest.length
    fail (← here) (← here) .escapeEnds
  if c = '\\' then fail place (place + 1) .propertyInvalid
  step
  return .property

/-- Reads a brace behind the sign of an edge: a kind of edge or a count may follow. -/
def edgeKind (start : Nat) : Read Unit := do
  let before ← get
  step
  let some c ← peek? | fail start (← here) .edgeOrCount
  let isKind (c : Char) : Bool := c.isAlpha || c = '-'
  if !isKind c then set before
  else
    let _ ← stepWhile isKind (← get).rest.length
    fail before.column (← here) .edgeUnclosed

/-- The characters that a backslash takes the meaning from, or leaves alone. -/
def isPlainEscape (c : Char) : Bool := c.toNat < 128 && !c.isAlphanum && c ≠ '<' && c ≠ '>'

/-- The control characters that letters behind a backslash stand for. -/
def controls : List (Char × Nat) :=
  [('a', 7), ('f', 12), ('t', 9), ('n', 10), ('r', 13), ('v', 11)]

/-- Reads an escape from its backslash on. -/
def escape : Read Atom := do
  let start ← here
  bump
  let some c ← peek? | fail start (← here) .escapeEnds
  if c.isDigit then fail start ((← here) + 1) .backReference
  if c = 'x' || c = 'u' || c = 'U' then return (← numbered c)
  if c = 'p' || c = 'P' then return (← property)
  bump
  if ['d', 's', 'w', 'D', 'S', 'W'].contains c then return .shorthand c.isUpper
  if isPlainEscape c then return .literal c
  if let some n := controls.lookup c then return .literal (Char.ofNat n)
  if c = 'A' || c = 'z' then return .edge
  if c = 'B' || c = '<' || c = '>' then return .wordEdge
  if c = 'b' then
    if ((← peek?).map (·.toNat)) = some 0x7B then edgeKind start
    return .wordEdge
  fail start (← here) .escapeUnknown

/-- The names of the classes of characters up to 127. -/
def classNames : List String :=
  ["alnum", "alpha", "ascii", "blank", "cntrl", "digit", "graph", "lower", "print", "punct",
   "space", "upper", "word", "xdigit"]

/-- How long the named class at the front of a text is, and whether it is negated. -/
def namedClass? : List Char → Option (Nat × Bool)
  | '[' :: ':' :: rest =>
    let negated := rest.head? = some '^'
    let named := if negated then rest.drop 1 else rest
    let name := named.takeWhile (· ≠ ':')
    let closed := [':', ']'].isPrefixOf (named.drop name.length)
    if closed && classNames.contains (String.ofList name) then
      some (name.length + (if negated then 5 else 4), negated)
    else none
  | _ => none

/-- An open class: where its opening stands, and whether it is negated. -/
structure OpenClass where
  opening : Span
  negated : Bool

/-- Reads the opening of a class. Dashes and then a bracket at its front stand for themselves. -/
def openClass : Read OpenClass := do
  let start ← here
  let ended : Read Bool := return (← peek?).isNone
  step
  if ← ended then fail start (← here) .classUnclosed
  let negated := (← peek?) = some '^'
  if negated then
    step
    if ← ended then fail start (← here) .classUnclosed
  let dashes ← stepWhile (· = '-') (← get).rest.length
  if ← ended then fail start start .classUnclosed
  if dashes.isEmpty && (← peek?) = some ']' then
    step
    if ← ended then fail start (← here) .classUnclosed
  return ⟨⟨start, ← here⟩, negated⟩

/-- Reads one side of a range. -/
def classAtom (c : Char) : Read (Atom × Span) := do
  let start ← here
  if c = '\\' then
    let a ← escape
    return (a, ⟨start, ← here⟩)
  bump
  return (.literal c, ⟨start, start + 1⟩)

/-- The number of the character that an atom stands for. -/
def Atom.code? : Atom → Option Nat
  | .literal c => some c.toNat
  | .octet n => some n
  | _ => none

/-- Reads an item of a class that begins with the given character: a range or an atom. -/
def classItem (opening : Span) (c : Char) : Read Unit := do
  let (a, s) ← classAtom c
  skipIdle
  let r ← get
  let behind := if r.flags.spaced then behindIdle r.rest.length (r.rest.drop 1) else r.rest.drop 1
  match r.rest with
  | [] => fail opening.first opening.last .classUnclosed
  | d :: _ =>
    if d ≠ '-' || behind.head? = some ']' || behind.head? = some '-' then
      if a = .wordEdge || a = .edge then fail s.first s.last .classEscape
      keep true s a
    else
      step
      let some e ← peek? | fail opening.first opening.last .classUnclosed
      let (b, t) ← classAtom e
      let some low := a.code? | fail s.first s.last .rangeBound
      let some high := b.code? | fail t.first t.last .rangeBound
      if high < low then fail s.first t.last .rangeOrder
      keep true s a
      keep true t b

/-- Reads a class behind its opening, up to the end of the outermost one. -/
def classItems : Nat → OpenClass → List OpenClass → Read Unit
  | 0, _, _ => return ()
  | fuel + 1, k, outer => do
    skipIdle
    let start ← here
    let some c ← peek? | fail k.opening.first k.opening.last .classUnclosed
    if c = '[' then
      match namedClass? (← get).rest with
      | some (length, negated) =>
        modify fun r => { r with rest := r.rest.drop length, column := r.column + length }
        object ⟨start, start + length⟩ (classFlaw? (← get).flags negated)
        classItems fuel k outer
      | none => classItems fuel (← openClass) (k :: outer)
    else if c = ']' then
      bump
      object ⟨k.opening.first, ← here⟩ (classFlaw? (← get).flags k.negated)
      match outer with
      | [] => return ()
      | o :: rest => classItems fuel o rest
    else if (← passed "&&") || (← passed "--") || (← passed "~~") then classItems fuel k outer
    else
      classItem k.opening c
      classItems fuel k outer

/-! ## Groups and repetitions -/

/-- The letters of the flags. -/
def flagLetters : List Char := ['i', 'm', 's', 'U', 'u', 'R', 'x']

/-- Reads the flags of a group: each with its column and whether it is set. -/
def flagItems : Nat → List (Char × Nat) → Bool → Read (List (Char × Bool))
  | 0, _, _ => return []
  | fuel + 1, seen, on => do
    let place ← here
    let some c ← peek? | fail place place .flagEnds
    if c = ':' || c = ')' then
      if let some ('-', n) := seen.head? then fail n (n + 1) .negationDangling
      return []
    if c ≠ '-' && !flagLetters.contains c then
      fail place (place + 1) .flagUnknown
    if let some n := seen.lookup c then
      let flaw : Flaw := if c = '-' then .negationTwice else .flagTwice
      throw ⟨flaw, [⟨place, place + 1⟩, ⟨n, n + 1⟩]⟩
    bump
    if c = '-' then flagItems fuel ((c, place) :: seen) false
    else return (c, on) :: (← flagItems fuel ((c, place) :: seen) on)

/-- The flags with some of them set or unset. -/
def Flags.apply (flags : Flags) (items : List (Char × Bool)) : Flags :=
  ⟨(items.lookup 'i').getD flags.fold, (items.lookup 'u').getD flags.characters,
    (items.lookup 'x').getD flags.spaced⟩

/-- Reads the name of a group. -/
def groupName : Read Unit := do
  let start ← here
  let r ← get
  let isNameChar (c : Char) : Bool :=
    c = '_' || c = '.' || c = '[' || c = ']' || Unicode.isAlphanumeric c
  if let some c := r.rest.head? then
    if c ≠ '>' && c ≠ '_' && !(Unicode.isAlphanumeric c && !c.isDigit) then
      fail start (start + 1) .nameInvalid
  let name := r.rest.takeWhile isNameChar
  let last := start + name.length
  set { r with rest := r.rest.drop name.length, column := last }
  let some c ← peek? | fail last last .nameUnclosed
  if c ≠ '>' then fail last (last + 1) .nameInvalid
  bump
  if name.isEmpty then fail start start .nameEmpty
  if let some other := r.names.lookup name then throw ⟨.nameTwice, [⟨start, last⟩, other]⟩
  modify fun r => { r with names := (name, ⟨start, last⟩) :: r.names }

/-- Opens a group under flags of its own. -/
def openGroup (start : Nat) (items : List (Char × Bool)) : Read Unit :=
  modify fun r =>
    { r with
      groups := (start, r.flags) :: r.groups
      flags := r.flags.apply items
      operand := false }

/-- Reads the opening of a group, or flags that hold up to the end of the group around them. -/
def group : Read Unit := do
  let start ← here
  step
  if (← passed "?=") || (← passed "?!") || (← passed "?<=") || (← passed "?<!") then
    fail start (← here) .lookAround
  let inner ← here
  if (← passed "?P<") || (← passed "?<") then
    groupName
    openGroup start []
  else if ← passed "?" then
    if (← peek?).isNone then fail start (start + 1) .groupUnclosed
    let items ← flagItems ((← get).rest.length + 1) [] true
    let closes := (← peek?) = some ')'
    let bare := (← here) = inner + 1
    bump
    if !closes then openGroup start items
    else if bare then fail inner inner .operandMissing
    else modify fun r => { r with flags := r.flags.apply items, operand := false }
  else openGroup start []

/-- Reads the closing of a group. -/
def closeGroup : Read Unit := do
  let r ← get
  match r.groups with
  | [] => fail r.column (r.column + 1) .groupUnopened
  | (_, flags) :: outer =>
    set { r with groups := outer, flags := flags, operand := true }
    bump

/-- What is repeated has to stand before. -/
def needOperand : Read Unit := do
  let r ← get
  if !r.operand then fail r.column r.column .operandMissing

/-- Reads the sign of a repetition and, perhaps, a sign that it be short. -/
def repetition : Read Unit := do
  needOperand
  bump
  if (← peek?) = some '?' then bump

/-- Reads a count in braces, which never ends. -/
def count : Read Unit := do
  needOperand
  let start ← here
  step
  let n := (← get).rest.length
  if n = 0 then fail start (← here) .countUnclosed
  let _ ← stepWhile Unicode.isBlank n
  let first ← here
  let digits ← stepWhile Char.isDigit n
  let last ← here
  let _ ← stepWhile Unicode.isBlank n
  if (← peek?).isNone then fail start (← here) .countUnclosed
  if digits.isEmpty then fail first last .countEmpty
  if Nat.pow 2 32 ≤ digits.foldl (fun n d => n * 10 + (d.toNat - 48)) 0 then
    fail first last .countTooLarge
  fail start (← here) .countUnclosed

/-- Reads a pattern to its end. -/
def parts : Nat → Read Unit
  | 0 => return ()
  | fuel + 1 => do
    skipIdle
    let start ← here
    match ← peek? with
    | none =>
      if let (column, _) :: _ := (← get).groups then fail column (column + 1) .groupUnclosed
    | some c =>
      if c = '(' then group
      else if c = ')' then closeGroup
      else if c = '|' then
        bump
        setOperand false
      else if c = '?' || c = '*' || c = '+' then repetition
      else if c.toNat = 0x7B then count
      else
        if c = '[' then classItems (← get).rest.length (← openClass) []
        else
          let a ← if c = '\\' then escape
            else do
              bump
              pure (if c = '.' then Atom.any else if c = '^' || c = '$' then .edge else .literal c)
          keep false ⟨start, ← here⟩ a
        setOperand true
      parts fuel

/-- What is wrong with a pattern, and otherwise whether it asks for the edges of words. -/
def check (pattern : List Char) : Except Complaint Bool := do
  let flags : Flags := ⟨false, true, false⟩
  let (_, r) ← (parts (pattern.length + 1)).run ⟨pattern, 0, flags, [], false, [], none, false⟩
  match r.meaning with
  | some c => throw c
  | none => return r.wordEdge

end Tenancy.Cli.Pattern
