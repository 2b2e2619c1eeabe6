import Tenancy.Url.Host
import Tenancy.Url.Path

/-!
# Reading URLs

A URL is read from its front: scheme, user information, host, port, path, query, fragment. Blanks
around it and tabs and line ends within it are dropped first. A special scheme is followed by any
number of slashes, and a backslash counts as one; any other scheme is followed by two slashes and a
host, by one slash and a path, or by a text without hierarchy.
-/

namespace Tenancy.Url

/-- A text without blanks around it and without tabs and line ends. -/
def clean (s : String) : List Char :=
  let front := s.toList.dropWhile isTrimmed
  ((front.reverse.dropWhile isTrimmed).reverse).filter fun c => !isIgnored c

/-- Whether a character may stand in a scheme. -/
def isSchemeChar (c : Char) : Bool := c.isAlphanum || c = '+' || c = '-' || c = '.'

/-- The scheme and what follows its colon. -/
def scheme? (cs : List Char) : Option (String × List Char) :=
  match cs.takeWhile isSchemeChar, cs.dropWhile isSchemeChar with
  | c :: rest, ':' :: more =>
    if c.isAlpha then some (String.ofList ((c :: rest).map Char.toLower), more) else none
  | _, _ => none

/-- The user information, encoded; the last at sign before the path ends it. A colon is kept only
before a password that is not empty. -/
def userInfo? (cs : List Char) : Option String :=
  let user := cs.takeWhile (· ≠ ':')
  let password := (cs.dropWhile (· ≠ ':')).drop 1
  let text := Percent.encodeChars inUserSet user
    ++ (if password.isEmpty then [] else ':' :: Percent.encodeChars inUserSet password)
  if text.isEmpty then none else some (String.ofList text)

/-- Splits the part that names the host into user information and the rest. -/
def splitUser (cs : List Char) : Option (List Char) × List Char :=
  if cs.contains '@' then
    let back := cs.reverse
    (some ((back.dropWhile (· ≠ '@')).drop 1).reverse, (back.takeWhile (· ≠ '@')).reverse)
  else (none, cs)

/-- The text of the host, up to the colon of a port; colons in brackets belong to it. -/
def hostText (inBrackets : Bool) : List Char → List Char × List Char
  | [] => ([], [])
  | c :: rest =>
    if c = ':' && !inBrackets then ([], c :: rest)
    else
      let inside := if c = '[' then true else if c = ']' then false else inBrackets
      let (host, more) := hostText inside rest
      (c :: host, more)

/-- The port that some digits spell; a scheme's own port and an empty one are left out. -/
def portOf (scheme : String) (digits : List Char) : Except UrlError (Option Nat) :=
  let n := digits.foldl (fun n c => n * 10 + (c.toNat - 48)) 0
  if 65535 < n then .error .badPort
  else .ok (if digits.isEmpty || defaultPort? scheme = some n then none else some n)

/-- What a URL says about where it leads, and the text behind the port, which only a backslash can
begin. -/
structure Authority where
  userInfo : Option String
  host : Host
  port : Option Nat
  rest : List Char

/-- Reads the part between the slashes and the path; `isLast` if nothing follows it. -/
def authorityOf (scheme : String) (special isLast : Bool) (cs : List Char) :
    Except UrlError Authority := do
  let (user, rest) := splitUser cs
  if user = some [] && rest.isEmpty && !isLast then throw .emptyHost
  let userInfo := user.bind userInfo?
  let (host, behind) := hostText false rest
  if host.isEmpty && (special || !behind.isEmpty || userInfo.isSome) then throw .emptyHost
  let host ← if special then Host.parse host else Host.parseOther host
  let digits := (behind.drop 1).takeWhile Char.isDigit
  let more := (behind.drop 1).dropWhile Char.isDigit
  let port ← portOf scheme digits
  if more.isEmpty || more.head? = some '\\' then return ⟨userInfo, host, port, more⟩
  else throw .badPort

/-- Segments as a path, with what may not stand in them escaped. -/
def pathOf (parts : List (List Char)) : UrlPath :=
  .segments (parts.map fun s => String.ofList (Percent.encodeChars inPathSet s))

/-- The path, its first slash included; special schemes always have one. -/
def rootedPath (special : Bool) : List Char → UrlPath
  | [] => .segments (if special then [""] else [])
  | c :: rest =>
    pathOf (follow false [] (splitSlashes special (if isSlash special c then rest else c :: rest)))

/-- Splits off the query and the fragment. -/
def splitTail (special : Bool) (cs : List Char) : List Char × Option String × Option String :=
  let front := cs.takeWhile (· ≠ '#')
  let fragment := match cs.dropWhile (· ≠ '#') with
    | [] => none
    | _ :: rest => some (String.ofList (Percent.encodeChars inFragmentSet rest))
  let query := match front.dropWhile (· ≠ '?') with
    | [] => none
    | _ :: rest => some (String.ofList (Percent.encodeChars (inQuerySet special) rest))
  (front.takeWhile (· ≠ '?'), query, fragment)

/-- A URL of a special scheme, from behind its slashes. -/
def readSpecial (scheme : String) (cs : List Char) : Except UrlError Url := do
  let (front, query, fragment) := splitTail true cs
  let authority := front.takeWhile fun c => !isSlash true c
  let a ← authorityOf scheme true (authority.length = cs.length) authority
  let path := rootedPath true (front.dropWhile fun c => !isSlash true c)
  return ⟨scheme, a.userInfo, some a.host, a.port, path, query, fragment, false⟩

/-- The segments of a path in the file system behind its first slash. -/
def localParts (cs : List Char) : List (List Char) := follow true [] (splitSlashes true cs)

/-- A path in the file system. -/
def localPath (parts : List (List Char)) : UrlPath := pathOf (trimFront parts)

/-- A URL of a file, from behind its colon. A drive in the place of the host is the beginning of the
path, and a path that begins with a drive needs no host. -/
def readLocal (cs : List Char) : Except UrlError Url := do
  let (front, query, fragment) := splitTail true cs
  let located (host : Host) (path : UrlPath) : Url :=
    ⟨"file", none, some host, none, path, query, fragment, false⟩
  if 2 ≤ (front.takeWhile (isSlash true)).length then
    let rest := front.drop 2
    let text := rest.takeWhile fun c => !isSlash true c
    if text.isEmpty || isDrive text then return located (.name "") (localPath (localParts rest))
    else
      let host ← Host.parse text
      if host = .name "localhost" then
        return located (.name "") (localPath (localParts (rest.drop text.length)))
      else
        let parts := localParts (rest.drop (text.length + 1))
        return located (if onDrive parts then .name "" else host) (localPath parts)
  else
    let behind := if (front.head?.map (isSlash true)).getD false then front.drop 1 else front
    return located (.name "") (localPath (localParts behind))

/-- A URL of any other scheme, from behind its colon. -/
def readOther (scheme : String) (cs : List Char) : Except UrlError Url := do
  let (front, query, fragment) := splitTail false cs
  let pathless (path : UrlPath) : Url :=
    ⟨scheme, none, none, none, path, query, fragment, path.looksLikeHost⟩
  match front with
  | '/' :: '/' :: rest =>
    let authority := rest.takeWhile (· ≠ '/')
    let a ← authorityOf scheme false (authority.length + 2 = cs.length) authority
    let path := rootedPath false (a.rest ++ rest.dropWhile (· ≠ '/'))
    return ⟨scheme, a.userInfo, some a.host, a.port, path, query, fragment, false⟩
  | '/' :: rest => return pathless (pathOf (follow false [] (splitSlashes false rest)))
  | _ => return pathless (.flat (String.ofList (Percent.encodeChars isControl front)))

/-- Reads a URL. -/
def parse (s : String) : Except UrlError Url :=
  match scheme? (clean s) with
  | none => .error .noScheme
  | some (scheme, rest) =>
    if scheme = "file" then readLocal rest
    else if isSpecial scheme then readSpecial scheme (rest.dropWhile (isSlash true))
    else readOther scheme rest

end Tenancy.Url
