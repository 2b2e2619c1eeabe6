/-!
# URLs

A URL in its normal form: scheme and host in lower case, default ports left out, dots resolved, and
everything that may not stand as it is percent-encoded. Its path is a list of segments, written with
a slash before each, or, for URLs that have no hierarchy, a text that stands as it is.
-/

namespace Tenancy

/-- Where a URL points to. -/
inductive Host where
  | name (text : String)
  | ipv4 (address : Nat)
  /-- The eight groups of sixteen bits. -/
  | ipv6 (groups : List Nat)
  deriving DecidableEq, Repr

/-- What follows the host. -/
inductive UrlPath where
  | segments (parts : List String)
  | flat (text : String)
  deriving DecidableEq, Repr

/-- A URL. -/
structure Url where
  scheme : String
  /-- User name and password, encoded and joined by a colon. -/
  userInfo : Option String
  host : Option Host
  port : Option Nat
  path : UrlPath
  query : Option String
  fragment : Option String
  /-- Whether a dot keeps the path apart from where a host would be. -/
  dotted : Bool
  deriving DecidableEq, Repr

namespace Host

/-- The dotted form of an IPv4 address. -/
def dotted (a : Nat) : String :=
  ".".intercalate
    [toString (a / 16777216 % 256), toString (a / 65536 % 256), toString (a / 256 % 256),
     toString (a % 256)]

/-- The length of the run of zeros at the front. -/
def zeroRun (gs : List Nat) : Nat := (gs.takeWhile (· = 0)).length

/-- The longest run of zeros, the first of several: where it begins and how long it is. -/
def longestRun (gs : List Nat) : Nat × Nat :=
  (List.range gs.length).foldl
    (fun best i => let n := zeroRun (gs.drop i); if best.2 < n then (i, n) else best) (0, 0)

/-- Groups in hexadecimal. -/
def hexGroups (gs : List Nat) : String :=
  ":".intercalate (gs.map fun g => String.ofList (Nat.toDigits 16 g))

/-- The bracketed form of an IPv6 address; two or more zero groups are written as two colons, once.
-/
def bracketed (gs : List Nat) : String :=
  let (start, length) := longestRun gs
  if length < 2 then "[" ++ hexGroups gs ++ "]"
  else "[" ++ hexGroups (gs.take start) ++ "::" ++ hexGroups (gs.drop (start + length)) ++ "]"

/-- The host as it stands in a URL. -/
def text : Host → String
  | .name s => s
  | .ipv4 a => dotted a
  | .ipv6 gs => bracketed gs

end Host

namespace UrlPath

/-- Whether a path begins with two slashes, as hosts do. -/
def looksLikeHost : UrlPath → Bool
  | .segments ("" :: _ :: _) => true
  | _ => false

/-- The path as it stands in a URL. -/
def text : UrlPath → String
  | .segments parts => String.join (parts.map ("/" ++ ·))
  | .flat s => s

end UrlPath

namespace Url

/-- What stands between the scheme and the path. -/
def authority (u : Url) : String :=
  match u.host with
  | some h =>
    "//" ++ ((u.userInfo.map (· ++ "@")).getD "") ++ h.text
      ++ ((u.port.map fun p => ":" ++ toString p).getD "")
  | none => if u.dotted then "/." else ""

/-- The URL without its fragment. -/
def request (u : Url) : String :=
  u.scheme ++ ":" ++ u.authority ++ u.path.text ++ ((u.query.map ("?" ++ ·)).getD "")

/-- The URL as text. -/
def text (u : Url) : String := u.request ++ ((u.fragment.map ("#" ++ ·)).getD "")

/-- Whether segments can be added to the path. -/
def isHierarchical (u : Url) : Bool :=
  match u.path with
  | .segments _ => true
  | .flat _ => false

/-- The port that a scheme stands for. -/
def defaultPort? (scheme : String) : Option Nat :=
  [("http", 80), ("https", 443), ("ws", 80), ("wss", 443), ("ftp", 21)].lookup scheme

/-- Whether a scheme names a host in the usual way, with backslashes read as slashes. -/
def isSpecial (scheme : String) : Bool := (defaultPort? scheme).isSome || scheme == "file"

end Url

end Tenancy
