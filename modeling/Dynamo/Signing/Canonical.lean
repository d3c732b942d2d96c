import Dynamo.Signing.Headers
import Dynamo.Text.Blank

/-! # Canonical requests

What is signed of a request, as one text: method, path, query, headers, their names, and the hash of
the body, each part on lines of its own. Every header takes part, with its first value. -/

namespace Dynamo

/-- Why a request cannot be signed. -/
inductive SignError where
  /-- A header that signing sets would hold a forbidden character. -/
  | invalidHeaderValue (name : String)
  /-- The value of a header is not printable ASCII. -/
  | unsignableHeader (name : String)
  deriving DecidableEq, Repr

/-- The message of the error. -/
def SignError.message : SignError → String
  | .invalidHeaderValue name => "invalid header value for " ++ name
  | .unsignableHeader name =>
    "header " ++ name ++ " is not valid visible ASCII and cannot be signed"

/-- The headers as they are signed. -/
structure CanonicalHeaders where
  /-- A line for each name. -/
  lines : String
  /-- The names. -/
  signedHeaders : String
  deriving DecidableEq, Repr

namespace Canonical

/-- The names in lower case, each once and with its first value. -/
def firstValues (headers : List (String × String)) : List (String × String) :=
  headers.foldl (fun seen h =>
    let name := lowerAscii h.1
    if (seen.map (·.1)).contains name then seen else seen ++ [(name, h.2)]) []

/-- Texts in ascending order. -/
def ascending (ss : List String) : List String := ss.mergeSort fun a b => a ≤ b

/-- The line of a header. -/
def line (header : String × String) : String := header.1 ++ ":" ++ Text.trim header.2

/-- **The canonical form of headers.** -/
def headers (hs : List (String × String)) : CanonicalHeaders :=
  let firsts := firstValues hs
  { lines := "\n".intercalate (ascending (firsts.map line))
    signedHeaders := ";".intercalate (ascending (firsts.map (·.1))) }

/-- The first value of each name, as a text. -/
def visibleFirsts (hs : Headers) : Except SignError (List (String × String)) :=
  hs.names.mapM fun name =>
    match (hs.first? name).bind Headers.visibleText? with
    | some text => .ok (name, text)
    | none => .error (.unsignableHeader name)

/-- The canonical form of the headers of a request. -/
def ofHeaders (hs : Headers) : Except SignError CanonicalHeaders :=
  return headers (← visibleFirsts hs)

/-- **The canonical request.** -/
def request (method path query : String) (headers : CanonicalHeaders) (payloadHash : String) :
    String :=
  let path := if path.isEmpty then "/" else path
  "\n".intercalate
    [method, path, query, headers.lines, "", headers.signedHeaders, payloadHash]

end Canonical

end Dynamo
