import Dynamo.Endpoint
import Dynamo.Number
import Dynamo.Signing.Credentials

/-! # Configuration

Where requests are sent, who signs them, how long to wait, and what of the exchanges is shown for
debugging.

* `ClientConfig.ofLookup` reads it from named variables, as an environment has them. -/

namespace Dynamo

/-- Why a configuration, or what it asks to be sent, is refused. -/
inductive ConfigError where
  | notSet (name : String)
  | notNumber (name text : String)
  | invalidEndpoint (endpoint : String)
  | noHost (endpoint : String)
  | invalidHost (host : String)
  | invalidTarget (target : String)
  deriving DecidableEq, Repr

/-- The message of the error. -/
def ConfigError.message : ConfigError → String
  | .notSet name => name ++ " is not set"
  | .notNumber name text => name ++ " is not a number: " ++ text
  | .invalidEndpoint endpoint => "invalid endpoint " ++ endpoint
  | .noHost endpoint => "endpoint " ++ endpoint ++ " has no host"
  | .invalidHost host => "invalid host: " ++ host
  | .invalidTarget target => "invalid operation target: " ++ target

/-- Which parts of an exchange are shown. -/
structure DebugFlags where
  requests : Bool := false
  responses : Bool := false
  auth : Bool := false
  deriving DecidableEq, Repr, Inhabited

namespace DebugFlags

/-- Nothing is shown. -/
def none : DebugFlags := {}

/-- Everything is shown. -/
def all : DebugFlags := ⟨true, true, true⟩

/-- What either shows. -/
def union (a b : DebugFlags) : DebugFlags :=
  ⟨a.requests || b.requests, a.responses || b.responses, a.auth || b.auth⟩

/-- Is nothing shown? -/
def isEmpty (a : DebugFlags) : Bool := a = none

/-- Does `a` show all that `b` shows, and `b` anything? -/
def contains (a b : DebugFlags) : Bool := a.union b = a && !b.isEmpty

/-- What one name asks to be shown. -/
def ofName (name : String) : DebugFlags :=
  if name = "requests" || name = "request" then { requests := true }
  else if name = "responses" || name = "response" then { responses := true }
  else if name = "auth" || name = "signing" then { auth := true }
  else if name = "all" || name = "1" || name = "true" then all
  else none

/-- **What a list of names asks to be shown.** Names are separated by commas; blanks around them and
the case of letters do not matter, and unknown names ask for nothing. -/
def parse (list : String) : DebugFlags :=
  (list.splitOn ",").foldl (fun flags name =>
    flags.union (ofName (String.ofList ((Text.trimChars name.toList).map Char.toLower)))) none

/-- The flags as one number. -/
def bits (a : DebugFlags) : Nat := a.requests.toNat + 2 * a.responses.toNat + 4 * a.auth.toNat

end DebugFlags

/-- **A configuration.** -/
structure ClientConfig where
  endpoint : String
  credentials : Credentials
  /-- Whole seconds. -/
  timeout : Option Nat := none
  debug : DebugFlags := {}
  /-- Is there somebody that debugging output is given to? -/
  hasSink : Bool := false
  deriving DecidableEq, Inhabited

namespace ClientConfig

/-- The configuration for an endpoint. -/
def new (endpoint : String) (credentials : Credentials) : ClientConfig :=
  { endpoint := Endpoint.normalize endpoint, credentials }

/-- The configuration for the service in a region. -/
def forRegion (region accessKey secretKey : String) : ClientConfig :=
  new (Endpoint.regional region) { region, accessKey, secretKey }

/-- The number of whole seconds in a text: digits, after at most one plus, below `2^64`. -/
def seconds? (text : String) : Option Nat :=
  let digits := match text.toList with
    | '+' :: cs => cs
    | cs => cs
  if digits ≠ [] ∧ digits.all Char.isDigit ∧ Decimal.ofDigits digits < 0x10000000000000000 then
    some (Decimal.ofDigits digits)
  else none

/-- A variable that has to be set. -/
def required (lookup : String → Option String) (name : String) : Except ConfigError String :=
  match lookup name with
  | some value => .ok value
  | none => .error (.notSet name)

/-- The timeout that a variable gives, if it is set. -/
def timeoutOf (lookup : String → Option String) (name : String) :
    Except ConfigError (Option Nat) :=
  match lookup name with
  | none => .ok none
  | some text =>
    match seconds? text with
    | some n => .ok (some n)
    | none => .error (.notNumber name text)

/-- **The configuration that variables give.** A variable without characters counts as not set. -/
def ofLookup (environment : String → Option String) : Except ConfigError ClientConfig := do
  let lookup (name : String) : Option String := (environment name).filter (!·.isEmpty)
  let region := ((lookup "AWS_REGION").or (lookup "AWS_DEFAULT_REGION")).getD "us-east-1"
  let accessKey ← required lookup "AWS_ACCESS_KEY_ID"
  let secretKey ← required lookup "AWS_SECRET_ACCESS_KEY"
  let endpoint := (lookup "DYNAWIRE_ENDPOINT_URL").getD (Endpoint.regional region)
  let debug := ((lookup "DYNAWIRE_DEBUG").map DebugFlags.parse).getD .none
  let timeout ← timeoutOf lookup "DYNAWIRE_TIMEOUT_SECS"
  return { new endpoint { region, accessKey, secretKey } with debug, timeout }

/-- A timeout in a summary. -/
def timeoutText : Option Nat → String
  | none => "None"
  | some 0 => "Some(0ns)"
  | some n => "Some(" ++ Decimal.natText n ++ "s)"

/-- One line about the configuration, which never shows the secret. -/
def summary (c : ClientConfig) : String :=
  "ClientConfig \x7b endpoint: " ++ Text.quoted c.endpoint ++ ", credentials: " ++
    c.credentials.summary ++ ", timeout: " ++ timeoutText c.timeout ++ ", debug: DebugFlags(" ++
    Decimal.natText c.debug.bits ++ "), debug_sink: " ++
    (if c.hasSink then "Some(\"<fn>\")" else "None") ++ " \x7d"

end ClientConfig

end Dynamo
