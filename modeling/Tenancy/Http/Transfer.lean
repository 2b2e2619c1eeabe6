import Tenancy.Http.Message

/-!
# Messages on the wire

A request is written as a head and a body, and asks the server to close the connection once it has
answered. So all that ever comes over a connection is one answer: a head, an empty line, and a body
whose end is announced by its length, marked by an empty chunk, or left to the end of the
connection. A body that ends before it should is an answer all the same, with a failure in the place
of its body.
-/

namespace Tenancy.Http

/-! ## Writing requests -/

/-- What a URL asks its server for. -/
def Request.target (r : Request) : String :=
  let path := r.url.path.text
  (if path.isEmpty then "/" else path) ++ ((r.url.query.map ("?" ++ ·)).getD "")

/-- The server that a URL names, with its port unless that goes without saying. -/
def Request.server (r : Request) : String :=
  ((r.url.host.map Host.text).getD "") ++ ((r.url.port.map fun p => ":" ++ toString p).getD "")

/-- How long the body is; what cannot have one has no length either. -/
def Request.measure (r : Request) : List (String × String) :=
  match r.body, r.method with
  | some body, _ => [("content-length", toString (Utf8.size body))]
  | none, .post | none, .put => [("content-length", "0")]
  | none, _ => []

/-- The lines of the head. -/
def Request.head (r : Request) : List String :=
  (r.method.text ++ " " ++ r.target ++ " HTTP/1.1")
    :: ([("host", r.server), ("accept", "*/*")] ++ r.headers ++ r.measure
        ++ [("connection", "close")]).map fun h => h.1 ++ ": " ++ h.2

/-- The request as it is sent. -/
def Request.wire (r : Request) : Bytes :=
  Utf8.encode ("\r\n".intercalate (r.head ++ ["", ""]) ++ r.body.getD "")

/-! ## Reading answers -/

/-- The head of a message, and what follows the empty line after it. -/
def splitHead? : Bytes → Option (Bytes × Bytes)
  | 13 :: 10 :: 13 :: 10 :: rest => some ([], rest)
  | b :: rest => (splitHead? rest).map fun p => (b :: p.1, p.2)
  | [] => none

/-- The status in the first line of a head. -/
def statusLine? (line : String) : Option Status :=
  match line.splitOn " " with
  | version :: code :: _ =>
    if version = "HTTP/1.1" || version = "HTTP/1.0" then
      if code.length = 3 then code.toNat?.map Status.mk else none
    else none
  | _ => none

/-- A value without the blanks around it. -/
def trimBlanks (cs : List Char) : List Char :=
  let blank (c : Char) := c = ' ' || c = '\t'
  ((cs.dropWhile blank).reverse.dropWhile blank).reverse

/-- The header in a line of a head. -/
def headerLine? (line : String) : Option (String × String) :=
  let cs := line.toList
  match cs.takeWhile (· ≠ ':'), cs.dropWhile (· ≠ ':') with
  | name, _ :: value =>
    some ((String.ofList name).toLower, String.ofList (trimBlanks value))
  | _, [] => none

/-- How the end of a body is known. -/
inductive Framing where
  | empty
  | length (size : Nat)
  | chunks
  | close
  deriving DecidableEq, Repr

/-- How the end of the body is known after a head. Chunks go before a length. -/
def framing (s : Status) (headers : List (String × String)) : Framing :=
  if s.code = 204 || s.code = 304 then .empty
  else if (headers.lookup "transfer-encoding").any fun v => v.toLower = "chunked" then .chunks
  else
    match (headers.lookup "content-length").bind String.toNat? with
    | some n => .length n
    | none => .close

/-- What comes next in a body that is sent in chunks. -/
inductive ChunkPart where
  /-- More digits of the size of a chunk. -/
  | size (soFar : Nat)
  /-- The rest of the line after the size. -/
  | remark (size : Nat)
  /-- That many bytes of a chunk, and one more. -/
  | data (more : Nat)
  /-- The line end after a chunk. -/
  | gap
  deriving DecidableEq, Repr

/-- The value of a hexadecimal digit. -/
def hexDigit? (b : UInt8) : Option Nat :=
  let n := b.toNat
  if 48 ≤ n ∧ n ≤ 57 then some (n - 48)
  else if 65 ≤ n ∧ n ≤ 70 then some (n - 55)
  else if 97 ≤ n ∧ n ≤ 102 then some (n - 87)
  else none

/-- The chunk that a finished size line announces; `none` is the last one, which is empty. -/
def announced : Nat → Option ChunkPart
  | 0 => none
  | n + 1 => some (.data n)

/-- The bytes of the chunks, after those that were read already; `none` if they break off. -/
def joinChunks (read : Bytes) : ChunkPart → Bytes → Option Bytes
  | .size n, 13 :: 10 :: rest | .remark n, 13 :: 10 :: rest =>
    match announced n with
    | none => some read.reverse
    | some next => joinChunks read next rest
  | .size n, b :: rest =>
    match hexDigit? b with
    | some d => joinChunks read (.size (16 * n + d)) rest
    | none => joinChunks read (.remark n) rest
  | .remark n, _ :: rest => joinChunks read (.remark n) rest
  | .data 0, b :: rest => joinChunks (b :: read) .gap rest
  | .data (n + 1), b :: rest => joinChunks (b :: read) (.data n) rest
  | .gap, 13 :: 10 :: rest => joinChunks read (.size 0) rest
  | _, _ => none

/-- The body within what follows a head, if all of it is there. -/
def Framing.body? (f : Framing) (bytes : Bytes) : Option Bytes :=
  match f with
  | .empty => some []
  | .length n => if bytes.length < n then none else some (bytes.take n)
  | .chunks => joinChunks [] (.size 0) bytes
  | .close => some bytes

/-- The answer that came over a connection, if it has a head that can be understood. -/
def Reply.ofBytes? (bytes : Bytes) : Option Reply := do
  let (head, rest) ← splitHead? bytes
  match (Utf8.lossy head).splitOn "\r\n" with
  | [] => none
  | first :: lines =>
    let s ← statusLine? first
    let headers ← lines.mapM headerLine?
    let body := match (framing s headers).body? rest with
      | some b => .ok b
      | none => .error truncated
    return ⟨s, headers, body⟩

/-- What comes of a request when these bytes came back. -/
def Request.outcome (r : Request) (bytes : Bytes) : Outcome :=
  match Reply.ofBytes? bytes with
  | some reply => .ok reply
  | none =>
    .error (unsent r.url
      ["client error (SendRequest)",
       if bytes.isEmpty then "connection closed before message completed"
       else "invalid HTTP message"])

end Tenancy.Http
