import Tenancy.Unicode.Direction
import Tenancy.Unicode.Folding
import Tenancy.Unicode.Joining
import Tenancy.Unicode.Normal
import Tenancy.Url.Charset
import Tenancy.Url.Punycode

/-!
# Labels of host names

A host name is a list of labels in any script. Names that look alike to a reader are one name: the
text is folded and composed first, and only then cut into labels. A label with characters beyond
ASCII is written in punycode behind a marker; a label that comes with the marker is taken for what
it means, and must be what that meaning is written as.
-/

namespace Tenancy.Host

/-- The marker of a label in punycode. -/
def punycodeMarker : List Char := ['x', 'n', '-', '-']

/-- The length beyond which no label is written in punycode. -/
def meaningLimit : Nat := 1000

/-- Whether a character is beyond ASCII. -/
def isForeign (c : Char) : Bool := 128 ≤ c.toNat

/-- Whether every joiner is where it makes a difference: behind a virama, or, for the one that keeps
letters apart, between letters that would join. The first argument is the text before, backwards. -/
def joinersMatter (before : List Char) : List Char → Bool
  | [] => true
  | c :: rest =>
    let behindVirama := (before.head?.map Unicode.isVirama).getD false
    let betweenLetters :=
      ((before.dropWhile Unicode.isTransparent).head?.map Unicode.joinsNext).getD false
        && ((rest.dropWhile Unicode.isTransparent).head?.map Unicode.joinsPrevious).getD false
    let matters :=
      if c.toNat = 0x200D then behindVirama
      else if c.toNat = 0x200C then behindVirama || betweenLetters
      else true
    matters && joinersMatter (c :: before) rest

/-- Whether a label may mean what it says: it does not begin with a mark or with the marker, all its
characters stand for themselves, and its joiners matter. -/
def isSound (label : List Char) : Bool :=
  !(label.head?.map Unicode.isMark).getD false && !punycodeMarker.isPrefixOf label
    && label.all Unicode.standsForItself && joinersMatter [] label

/-- What a label means. -/
def meaning? (label : List Char) : Option (List Char) :=
  if punycodeMarker.isPrefixOf label then do
    let body := label.drop punycodeMarker.length
    let meant ← if body.any isForeign then none else Punycode.decode body
    if meant.any isForeign && isSound meant && Unicode.composed meant = meant
        && Punycode.encode meant = body then some meant else none
  else if label.any isForeign && !isSound label then none
  else some label

/-- How a label is written. -/
def written? (meant : List Char) : Option (List Char) :=
  if !meant.any isForeign then some meant
  else if meaningLimit < meant.length then none
  else some (punycodeMarker ++ Punycode.encode meant)

open Unicode (Direction)

/-- Whether a direction belongs to what runs from the right. -/
def fromRight (d : Direction) : Bool :=
  d = .right || d = .arabicLetter || d = .arabicNumber

/-- Whether a direction fits in with any other. -/
def isAdaptable (d : Direction) : Bool :=
  d = .europeanNumber || d = .europeanSeparator || d = .commonSeparator || d = .europeanTerminator
    || d = .neutral || d = .boundary || d = .mark

/-- Whether a label keeps to one direction, so that it reads the same next to any other label: it
begins with a letter, and ends in a letter or number of that direction. -/
def keepsDirection (label : List Char) : Bool :=
  let ds := label.map Unicode.direction
  match ds, (ds.reverse.dropWhile (· = .mark)).head? with
  | .left :: _, some last =>
    ds.all (fun d => d = .left || isAdaptable d) && (last = .left || last = .europeanNumber)
  | .right :: _, some last | .arabicLetter :: _, some last =>
    ds.all (fun d => fromRight d || isAdaptable d) && (fromRight last || last = .europeanNumber)
      && !(ds.contains .europeanNumber && ds.contains .arabicNumber)
  | [], _ => true
  | _, _ => false

/-- A name in ASCII, if it can be one. Where any label runs from the right, all of them have to keep
their direction. -/
def asciiName (cs : List Char) : Option (List Char) := do
  let text ← Unicode.fold? cs
  let labels ← ((Unicode.composed text).splitOn '.').mapM meaning?
  let mixed := labels.any fun l => l.any fun c => fromRight (Unicode.direction c)
  if mixed && !labels.all keepsDirection then none
  let name := List.intercalate ['.'] (← labels.mapM written?)
  if name.any Url.forbiddenInName then none else some name

end Tenancy.Host
