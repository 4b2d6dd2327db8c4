import RequestCredentials.Request.Basic
import RequestCredentials.Scan
/-
  Exchanges — requests as they arrive at the proxy

  A request arrives with header fields and a path in bytes. The proxy keeps
  metadata with it, and the response once there is one. Bytes are read as
  UTF-8; those that are not UTF-8 are escaped one by one. Header fields whose
  names differ in the case of ASCII letters only are one header; its values
  are joined. The query is the part of the path between the first question
  mark and the fragment, with a plus for a space and percent-encoded bytes; of
  several parameters of one name the first counts.
-/

namespace RequestCredentials

structure Response where
  status : Nat
  body : Text

/-- A request, what the proxy keeps with it, and the response if there is one. -/
structure Exchange where
  /-- The host that the request goes to. -/
  host : Text
  headers : List (Bytes × Bytes)
  path : Bytes
  metadata : List (Text × Tree)
  response : Option Response

/-! ## Headers -/

/-- A header name with its ASCII letters in lower case. -/
def asciiLower (name : Bytes) : Bytes :=
  name.map fun b => if 0x41 ≤ b ∧ b ≤ 0x5A then b + 0x20 else b

/-- The names of the headers, each as it first occurs. -/
def headerNames : List (Bytes × Bytes) → List Bytes
  | [] => []
  | (name, _) :: rest =>
    name :: (headerNames rest).filter fun n => asciiLower n ≠ asciiLower name

/-- The values of all header fields of that name, joined. -/
def joinedValue (fields : List (Bytes × Bytes)) (name : Bytes) : Text :=
  Text.join ", " ((fields.filter fun f => asciiLower f.1 = asciiLower name).map fun f =>
    Utf8.decodeEscaping f.2)

/-- Adds a header under its name in lower case. -/
def addHeader (fields : List (Bytes × Bytes)) (headers : List (Text × Text)) (name : Bytes) :
    List (Text × Text) :=
  setValue (Utf8.decodeEscaping name).lower (joinedValue fields name) headers

/-- The headers by name in lower case; of two that come to the same name the later counts. -/
def readHeaders (fields : List (Bytes × Bytes)) : List (Text × Text) :=
  (headerNames fields).foldl (addHeader fields) []

/-! ## Query -/

/-- A byte of percent-encoded ASCII text. -/
def percentStep (c : CodePoint) (rest : Text) : Step UInt8 Empty :=
  match c.val, rest with
  | 0x25, a :: b :: _ =>
    match a.hexDigit?, b.hexDigit? with
    | some high, some low => .item (UInt8.ofNat (16 * high + low)) 2
    | _, _ => .item (UInt8.ofNat c.val) 0
  | _, _ => .item (UInt8.ofNat c.val) 0

/-- The text that ASCII text encodes. -/
def percentDecodeAscii (s : Text) : Text := Utf8.decodeEscaping (scan percentStep s).items

/-- The longest runs of code points that are all ASCII or all not. -/
def asciiRuns : Text → List (Bool × Text)
  | [] => []
  | c :: rest =>
    let ascii := decide (c.val < 0x80)
    match asciiRuns rest with
    | (kind, run) :: runs =>
      if kind = ascii then (kind, c :: run) :: runs else (ascii, [c]) :: (kind, run) :: runs
    | [] => [(ascii, [c])]

/-- The text that percent-encoded text stands for; code points outside ASCII stand for themselves
and end a sequence of bytes. -/
def percentDecode (s : Text) : Text :=
  (asciiRuns s).flatMap fun (ascii, run) => if ascii then percentDecodeAscii run else run

/-- A name or value of a query. -/
def queryText (s : Text) : Text := percentDecode (s.replace '+' ' ')

/-- A path as it stands in a URL: a lone asterisk is no path, and tabs and line ends are left
out. -/
def pathInUrl (path : Text) : Text :=
  let path : Text := if path = "*" then [] else path
  path.filter fun (c : CodePoint) => c ≠ '\t' ∧ c ≠ '\r' ∧ c ≠ '\n'

/-- The query of a path. -/
def queryOf (path : Text) : Text := (Text.cut '?' (Text.cut '#' (pathInUrl path)).1).2.getD []

/-- The authority of the URL with that host and path. What stands in a path before its first slash
goes on from the host. -/
def authorityOf (host path : Text) : Text :=
  host ++ (pathInUrl path).takeWhile fun (c : CodePoint) => c ≠ '/' ∧ c ≠ '?' ∧ c ≠ '#'

/-- The parameters of a query, in order. -/
def parameters (query : Text) : List (Text × Text) :=
  ((query.splitOn '&').filter (· ≠ [])).map fun part =>
    let (name, value) := Text.cut '=' part
    (queryText name, queryText (value.getD []))

/-- Adds a parameter unless there is one of that name. -/
def addParameter (query : List (Text × Text)) (parameter : Text × Text) : List (Text × Text) :=
  if (valueOf? parameter.1 query).isSome then query else query ++ [parameter]

/-- The parameters by name, the first of each name. -/
def readQuery (path : Text) : List (Text × Text) := (parameters (queryOf path)).foldl addParameter []

/-! ## Exchanges -/

/-- What locations see of a request, whose URL must have a well-formed authority. -/
def Exchange.request (x : Exchange) : Except Fault Request := do
  let path := Utf8.decodeEscaping x.path
  (Url.checkAuthority (authorityOf x.host path)).mapError Fault.malformedUrl
  return ⟨readHeaders x.headers, readQuery path, x.metadata⟩

end RequestCredentials
