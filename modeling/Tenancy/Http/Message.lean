import Tenancy.Chain
import Tenancy.Http.Status
import Tenancy.Text.Utf8
import Tenancy.Url.Extend

/-!
# HTTP messages

A request is put together before it is sent, and that can fail: a header value must not contain
control characters, and only URLs of the schemes `http` and `https` can be requested, if they are not
too long and their host can stand in a request. An answer may break off within its body.
-/

namespace Tenancy.Http

/-- What is asked of a resource. -/
inductive Method where
  | get
  | post
  | put
  | delete
  deriving DecidableEq, Repr

/-- The method as it is sent. -/
def Method.text : Method → String
  | .get => "GET"
  | .post => "POST"
  | .put => "PUT"
  | .delete => "DELETE"

/-- A request. Header names are in lower case. -/
structure Request where
  method : Method
  url : Url
  headers : List (String × String)
  body : Option String
  deriving DecidableEq, Repr

/-- An answer. A body that ends before its announced length has the failure in its place. -/
structure Reply where
  status : Status
  headers : List (String × String)
  body : Except Chain Bytes

/-- What comes of sending a request. -/
abbrev Outcome := Except Chain Reply

/-- Whether a header can have this value: no control characters but the tab. -/
def isHeaderValue (s : String) : Bool :=
  s.toList.all fun c => c = '\t' || !(c.toNat < 32 || c.toNat = 127)

/-- The failure of a request that could not be put together. -/
def unbuildable : Chain := ⟨"builder error", ["failed to parse header value"]⟩

/-- The failure of a request for a URL that cannot be requested, for the given reason. -/
def unrequestable (u : Url) (cause : String) : Chain :=
  ⟨"builder error for url (" ++ u.asked.text ++ ")", [cause]⟩

/-- The failure of a request that met no server, for the given reasons. -/
def unsent (u : Url) (causes : List String) : Chain :=
  ⟨"error sending request for url (" ++ u.asked.text ++ ")", causes⟩

/-- The failure of a body that broke off. -/
def truncated : Chain := .single "error decoding response body"

namespace Request

/-- A request without headers or body. -/
def bare (method : Method) (url : Url) : Request := ⟨method, url, [], none⟩

/-- The request with a header more. -/
def withHeader (r : Request) (name value : String) : Request :=
  { r with headers := r.headers ++ [(name, value)] }

/-- The request with a body of the given type. -/
def withBody (r : Request) (type body : String) : Request :=
  { r.withHeader "content-type" type with body := some body }

/-- The value of a header. -/
def header? (r : Request) (name : String) : Option String := r.headers.lookup name

/-- Why the request cannot be sent, if it cannot. Without a host in its URL it takes no headers. -/
def defect? (r : Request) : Option Chain :=
  if r.url.hasHost && r.headers.any fun h => !isHeaderValue h.2 then some unbuildable
  else r.url.obstacle?.map (unrequestable r.url)

end Request

namespace Reply

/-- The first value of a header. -/
def header? (r : Reply) (name : String) : Option String := r.headers.lookup name

/-- The body as text, for diagnostics; one that broke off counts as empty. -/
def diagnostic (r : Reply) : String :=
  match r.body with
  | .ok bytes => Utf8.lossy bytes
  | .error _ => ""

end Reply

end Tenancy.Http
