/-!
# Flaws of patterns

What can be wrong with a pattern, and how it is pointed out: the pattern, marks under the part that
is wrong, and what is wrong with it.
-/

namespace Tenancy.Cli.Pattern

/-- What is wrong with a part of a pattern. -/
inductive Flaw where
  | groupUnclosed
  | groupUnopened
  | lookAround
  | nameEmpty
  | nameInvalid
  | nameUnclosed
  | nameTwice
  | flagUnknown
  | flagTwice
  | flagEnds
  | negationTwice
  | negationDangling
  | operandMissing
  | countUnclosed
  | countEmpty
  | countTooLarge
  | classUnclosed
  | classEscape
  | rangeOrder
  | rangeBound
  | escapeEnds
  | escapeUnknown
  | backReference
  | hexDigit
  | hexValue
  | propertyInvalid
  | edgeOrCount
  | edgeUnclosed
  | propertyUnknown
  | shorthandUnknown
  | foldingUnknown
  | notForOctets
  | notText
  deriving DecidableEq, Repr

/-- What is said about a flaw. -/
def Flaw.message : Flaw → String
  | groupUnclosed => "unclosed group"
  | groupUnopened => "unopened group"
  | lookAround => "look-around, including look-ahead and look-behind, is not supported"
  | nameEmpty => "empty capture group name"
  | nameInvalid => "invalid capture group character"
  | nameUnclosed => "unclosed capture group name"
  | nameTwice => "duplicate capture group name"
  | flagUnknown => "unrecognized flag"
  | flagTwice => "duplicate flag"
  | flagEnds => "expected flag but got end of regex"
  | negationTwice => "flag negation operator repeated"
  | negationDangling => "dangling flag negation operator"
  | operandMissing => "repetition operator missing expression"
  | countUnclosed => "unclosed counted repetition"
  | countEmpty => "repetition quantifier expects a valid decimal"
  | countTooLarge => "decimal literal invalid"
  | classUnclosed => "unclosed character class"
  | classEscape => "invalid escape sequence found in character class"
  | rangeOrder => "invalid character class range, the start must be <= the end"
  | rangeBound => "invalid range boundary, must be a literal"
  | escapeEnds => "incomplete escape sequence, reached end of pattern prematurely"
  | escapeUnknown => "unrecognized escape sequence"
  | backReference => "backreferences are not supported"
  | hexDigit => "invalid hexadecimal digit"
  | hexValue => "hexadecimal literal is not a Unicode scalar value"
  | propertyInvalid => "invalid Unicode character class"
  | edgeOrCount =>
    "found either the beginning of a special word boundary or a bounded repetition on a \\b with "
      ++ "an opening brace, but no closing brace"
  | edgeUnclosed =>
    "special word boundary assertion is either unclosed or contains an invalid character"
  | propertyUnknown => "Unicode property not found"
  | shorthandUnknown =>
    "Unicode-aware Perl class not found (make sure the unicode-perl feature is enabled)"
  | foldingUnknown =>
    "Unicode-aware case insensitivity matching is not available (make sure the unicode-case "
      ++ "feature is enabled)"
  | notForOctets => "Unicode not allowed here"
  | notText => "pattern can match invalid UTF-8"

/-- A part of a pattern: the columns from the first one up to the last one, which is not in it. -/
structure Span where
  first : Nat
  last : Nat
  deriving DecidableEq, Repr

/-- A flaw and where it is; some flaws are between two parts. -/
structure Complaint where
  flaw : Flaw
  spans : List Span
  deriving DecidableEq, Repr

namespace Complaint

/-- A row of one character. -/
def row (n : Nat) (c : Char) : String := String.ofList (List.replicate n c)

/-- Marks under the given parts, of which `column` columns have been passed. -/
def marks (column : Nat) : List Span → String
  | [] => ""
  | s :: rest =>
    let width := max 1 (s.last - s.first)
    row (s.first - column) ' ' ++ row width '^' ++ marks (max column s.first + width) rest

/-- A complaint in full. -/
def text (pattern : String) (c : Complaint) : String :=
  let spans := c.spans.mergeSort fun a b => decide (a.first ≤ b.first)
  "\n".intercalate
    ["regex parse error:", "    " ++ pattern, "    " ++ marks 0 spans, "error: " ++ c.flaw.message]

end Complaint

end Tenancy.Cli.Pattern
