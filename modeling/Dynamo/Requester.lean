import Dynamo.Endpoint.Uri
import Dynamo.Error
import Dynamo.Operation
import Dynamo.Signing.Signature

/-! # Sending requests

A requester makes signed requests for one endpoint, and judges the responses. How bytes travel is
left open: a network takes a signed request, and gives a response or nothing.

* `Requester.ofConfig`: the requester of a configuration, if its endpoint can be used.
* `Requester.post`: a signed request.
* `Requester.conclude`: what a response means.
* `Requester.send`: all of that, and what is shown of it for debugging. -/

namespace Dynamo

/-- **Who makes signed requests.** -/
structure Requester where
  endpoint : String
  host : String
  path : String
  query : String
  credentials : Credentials
  debug : DebugFlags
  /-- Is there somebody that debugging output is given to? -/
  hasSink : Bool
  deriving DecidableEq, Inhabited

/-- A signed request. -/
structure SignedPost where
  target : String
  headers : Headers
  body : Bytes
  deriving DecidableEq, Inhabited

/-- A response, its body as it arrives. -/
structure Response where
  status : Nat
  /-- The length of the body, if the response declares it. -/
  declaredLength : Option Nat
  chunks : List Bytes
  /-- Did the body arrive up to its end? -/
  isComplete : Bool
  deriving DecidableEq, Inhabited

/-! ### Bodies of responses -/

/-- **What is held of a body**: fewer bytes than the limit. -/
structure Buffer (limit : Nat) where
  bytes : Bytes
  length_lt : bytes.length < limit

namespace Buffer

variable {limit : Nat}

/-- Nothing is held yet. -/
def empty (h : 0 < limit) : Buffer limit := ⟨[], h⟩

/-- Takes one more chunk, unless the limit would be reached. -/
def push (buffer : Buffer limit) (chunk : Bytes) : Except Error (Buffer limit) :=
  if h : buffer.bytes.length + chunk.length < limit then
    .ok ⟨buffer.bytes ++ chunk, by rwa [List.length_append]⟩
  else .error (.responseTooLarge limit)

end Buffer

namespace Response

/-- The number of bytes that no body may have, or more. -/
def maxSize : Nat := 25 * 1024 * 1024

/-- **The body of a response**, if it stays below the limit, in what it declares as in what arrives.
-/
def readBody (limit : Nat) (r : Response) : Except Error Bytes :=
  if h : r.declaredLength.getD 0 < limit then do
    let buffer ← r.chunks.foldlM Buffer.push (.empty (Nat.zero_lt_of_lt h))
    if r.isComplete then .ok buffer.bytes else .error .transport
  else .error (.responseTooLarge limit)

end Response

/-! ### Requests -/

namespace Headers

/-- A byte of a value as it is shown. -/
def shownByte (b : UInt8) : List Char :=
  if b = 34 then ['\\', '"']
  else if isVisible b then [Char.ofNat b.toNat]
  else ['\\', 'x'] ++ Nat.toDigits 16 b.toNat

/-- A value as it is shown. -/
def shownValue (value : Bytes) : String := "\"" ++ String.ofList (value.flatMap shownByte) ++ "\""

/-- All headers as they are shown. -/
def shown (hs : Headers) : String :=
  "\x7b" ++ ", ".intercalate (hs.map fun h => Text.quoted h.1 ++ ": " ++ shownValue h.2) ++ "\x7d"

end Headers

namespace Requester

/-- **The requester of a configuration.** -/
def ofConfig (c : ClientConfig) : Except ConfigError Requester :=
  match Uri.ofString? c.endpoint with
  | none => .error (.invalidEndpoint c.endpoint)
  | some u =>
    match u.authority with
    | none => .error (.noHost c.endpoint)
    | some host =>
      .ok
        { endpoint := c.endpoint, host, path := u.requestPath, query := u.query.getD ""
          credentials := c.credentials, debug := c.debug, hasSink := c.hasSink }

/-- The target as it is sent: the bare name of an operation is made complete. -/
def qualified (target : String) : String :=
  if target.toList.contains '.' then target else Operation.targetPrefix ++ target

/-- The header with the target. -/
def targetHeader : String := "x-amz-target"

/-- The type of all bodies. -/
def contentType : String := "application/x-amz-json-1.0"

/-- The headers of a request before it is signed. -/
def plainHeaders (r : Requester) (target : String) : Except ConfigError Headers := do
  let some value := Headers.value? target | .error (.invalidTarget target)
  let some host := Headers.value? r.host | .error (.invalidHost r.host)
  return Headers.insert "host" host <| Headers.insert "content-type" (.ofString contentType) <|
    Headers.insert targetHeader value []

/-- **A signed request.** -/
def post (r : Requester) (now : Instant) (target : String) (body : Bytes) :
    Except Error SignedPost := do
  let target := qualified target
  let headers ← (r.plainHeaders target).mapError .config
  let (result, headers) :=
    Signature.sign ⟨"POST", r.path, r.query, body⟩ r.credentials now headers
  result.mapError .sign
  return { target, headers, body }

/-- **What a response to a request means**: the body, an error of the service, or a body that is too
large or broken off. -/
def conclude (p : SignedPost) (response : Response) : Except Error Bytes := do
  let body ← response.readBody Response.maxSize
  if response.status = 200 then return body
  else .error (.service (.ofResponse response.status p.body body))

/-! ### Debugging -/

/-- What is shown of a request. -/
def requestLines (r : Requester) (p : SignedPost) : List String :=
  (if r.debug.auth then ["Signed headers: " ++ p.headers.shown] else []) ++
    if r.debug.requests then
      ["Request: POST " ++ r.endpoint ++ " " ++ p.target ++ "\n" ++ p.body.lossyText]
    else []

/-- What is shown of a response. -/
def responseLines (r : Requester) (p : SignedPost) (response : Response) : List String :=
  match response.readBody Response.maxSize with
  | .ok body =>
    if r.debug.responses then
      ["Response: " ++ Status.text response.status ++ " " ++ p.target ++ "\n" ++ body.lossyText]
    else []
  | .error _ => []

/-- **Sends a request through a network**, and tells what is shown and what comes of it. -/
def send (r : Requester) (network : SignedPost → Option Response) (now : Instant) (target : String)
    (body : Bytes) : List String × Except Error Bytes :=
  let shown (lines : List String) : List String := if r.hasSink then lines else []
  match r.post now target body with
  | .error e => ([], .error e)
  | .ok p =>
    match network p with
    | none => (shown (r.requestLines p), .error .transport)
    | some response =>
      (shown (r.requestLines p ++ r.responseLines p response), conclude p response)

end Requester

end Dynamo
