import Dynamo.Digest.Hmac
import Dynamo.Signing.Canonical
import Dynamo.Signing.Credentials
import Dynamo.Text.Hex
import Dynamo.Time.Instant

/-! # Signatures of requests

Version 4 of the signatures: a request gets a header with the time and one with the signature, which
covers the canonical request, the time and the scope, under a key that only holds for the day, the
region and the service.

* `Signature.sign` signs a request, whatever headers of earlier signatures it carries. -/

namespace Dynamo.Signature

/-- The name of the algorithm. -/
def algorithm : String := "AWS4-HMAC-SHA256"

/-- The header with the time. -/
def dateHeader : String := "x-amz-date"

/-- The header with the signature. -/
def authorizationHeader : String := "authorization"

/-- The hash of a body. -/
def payloadHash (body : Bytes) : String := (Sha256.digest body).hex

/-- The text that is signed. -/
def stringToSign (timestamp scope requestHash : String) : String :=
  "\n".intercalate [algorithm, timestamp, scope, requestHash]

/-- The key of a day, region and service. -/
def signingKey (secretKey date region service : String) : Bytes :=
  [date, region, service, Credentials.terminator].foldl
    (fun key part => Hmac.digest key (.ofString part)) (.ofString ("AWS4" ++ secretKey))

/-- The signature of a text. -/
def compute (key : Bytes) (data : String) : String := (Hmac.digest key (.ofString data)).hex

/-- The value of the header with the signature. -/
def authorization (accessKey scope signedHeaders signature : String) : String :=
  algorithm ++ " Credential=" ++ accessKey ++ "/" ++ scope ++ ", SignedHeaders=" ++ signedHeaders ++
    ", Signature=" ++ signature

/-- What of a request is signed besides its headers. -/
structure Target where
  method : String
  path : String
  query : String
  body : Bytes

/-- The value of the header with the signature, for canonical headers and a time in two forms. -/
def authorizationFor (t : Target) (c : Credentials) (headers : CanonicalHeaders)
    (timestamp date : String) : String :=
  let request := Canonical.request t.method t.path t.query headers (payloadHash t.body)
  let scope := c.scope date
  let text := stringToSign timestamp scope (payloadHash (.ofString request))
  let key := signingKey c.secretKey date c.region c.service
  authorization c.accessKey scope headers.signedHeaders (compute key text)

/-- The headers that a signature covers: those of the request without an earlier signature, and the
time. -/
def stamped (timestamp : String) (hs : Headers) : Headers :=
  (hs.remove authorizationHeader).insert dateHeader (.ofString timestamp)

/-- **Signs a request.** The headers are those that are left: with the signature, or without any if
it cannot be made. -/
def sign (t : Target) (c : Credentials) (now : Instant) (hs : Headers) :
    Except SignError Unit × Headers :=
  let hs := stamped now.basicText hs
  match Canonical.ofHeaders hs with
  | .error e => (.error e, hs)
  | .ok headers =>
    match Headers.value? (authorizationFor t c headers now.basicText now.basicDate) with
    | none => (.error (.invalidHeaderValue authorizationHeader), hs)
    | some value => (.ok (), hs.insert authorizationHeader value)

end Dynamo.Signature
