import Tenancy.Url.Reader
import Tenancy.Text.Form

/-!
# Building on a URL

Segments and query fields are added to a base URL. A segment is encoded so that it reads back as it
was given, whatever it contains: slashes and percent signs in it are escaped. The segments `.` and
`..` cannot be written and are left out. What comes of it need not be a URL that a server can be asked
for.
-/

namespace Tenancy.Url

/-- Puts an encoded segment at the end of a path. The path of a bare slash takes it in place of its
empty segment, and what tabs and line ends leave of a dot segment still climbs. -/
def push (scheme : String) (parts : List String) (segment : String) : List String :=
  let text := Percent.encodeChars (inSegmentSet (isSpecial scheme))
    (segment.toList.filter fun c => !isIgnored c)
  if isDoubleDot text then
    (above (scheme = "file") (parts.map String.toList)).map String.ofList ++ [""]
  else
    let last := if isDot text then "" else String.ofList text
    if parts = [""] then [last] else parts ++ [last]

/-- Whether a segment cannot be written. -/
def isUnwritable (segment : String) : Bool := segment = "." || segment = ".."

/-- Takes an empty segment off the end of a path, unless it is all there is. -/
def popIfEmpty (parts : List String) : List String :=
  if 1 < parts.length && parts.getLast? = some "" then parts.dropLast else parts

/-- The URL with segments added to its path; `none` if it has no hierarchy. -/
def join? (base : Url) (segments : List String) : Option Url :=
  match base.path with
  | .flat _ => none
  | .segments parts =>
    let parts := (segments.filter fun s => !isUnwritable s).foldl (push base.scheme)
      (popIfEmpty parts)
    some { base with path := .segments parts }

/-- The URL with a field added to its query. -/
def withField (u : Url) (name value : String) : Url :=
  let field := Form.encodeField (name, value)
  let query := match u.query with
    | none => field
    | some q => if q.isEmpty then field else q ++ "&" ++ field
  { u with query := some query }

/-! ## Asking for a URL -/

/-- Whether a user name, or a password without one, is taken out of a URL before the URL is asked for:
what is escaped in it has to spell text. -/
def isLogin (userInfo : String) : Bool :=
  let spells (cs : List Char) :=
    (Utf8.decode? (Percent.decode (Utf8.encode (String.ofList cs)))).isSome
  let name := userInfo.toList.takeWhile (· ≠ ':')
  spells name && (!name.isEmpty || spells (userInfo.toList.drop 1))

/-- The URL as it is asked for; user name and password are told in another place. -/
def asked (u : Url) : Url := { u with userInfo := u.userInfo.filter fun s => !isLogin s }

/-- Whether the URL names a host. -/
def hasHost (u : Url) : Bool := u.host.any fun h => !h.text.isEmpty

/-- How long a URL may be that is asked for, in bytes and with its fragment. -/
def maxSize : Nat := 65534

/-- The characters of hosts that request lines do not allow. -/
def outOfPlace : List Char := ['"', '\x60', '\x7b', '\x7d']

/-- Whether the URL can be sent in a request: its host may only hold what request lines allow, and it
must not be too long. -/
def isSendable (u : Url) : Bool :=
  decide (Utf8.size u.asked.text ≤ maxSize) &&
    u.host.all fun h => h.text.toList.all fun c => !outOfPlace.contains c

/-- What keeps a server from being asked for the URL, if anything does. -/
def obstacle? (u : Url) : Option String :=
  if u.hasHost && (u.scheme = "http" || u.scheme = "https") then
    if u.isSendable then none else some "Parsed Url is not a valid Uri"
  else some "URL scheme is not allowed"

end Tenancy.Url
