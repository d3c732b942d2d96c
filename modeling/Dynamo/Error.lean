import Dynamo.Bindings
import Dynamo.Config
import Dynamo.Service.Error
import Dynamo.Signing.Canonical

/-! # Errors of the client

Everything that can go wrong between a request and its result. -/

namespace Dynamo

/-- **Why a request has no result.** -/
inductive Error where
  /-- The service answered with an error. -/
  | service (cause : ServiceError)
  /-- The service could not be reached, or broke off. -/
  | transport
  | responseTooLarge (limit : Nat)
  /-- A document of the request has no wire form; seen before anything was sent. -/
  | encode (cause : EncodeError)
  /-- The body of the request could not be written. -/
  | marshal (cause : EncodeError)
  /-- The body of the response could not be read. -/
  | unmarshal (cause : ReadError)
  | invalidParam (cause : ParamError)
  | sign (cause : SignError)
  | config (cause : ConfigError)
  /-- Whoever carries out requests cannot do this kind. -/
  | unsupported (what : String)
  deriving DecidableEq

namespace Error

/-- The message, if it is one that this library words itself. -/
def message? : Error → Option String
  | .service cause => some cause.summary
  | .transport => none
  | .responseTooLarge limit =>
    some ("response exceeded the maximum size of " ++ Decimal.natText limit ++ " bytes")
  | .encode cause => cause.message?.map ("failed to encode request: " ++ ·)
  | .marshal cause => cause.message?
  | .unmarshal cause => cause.message?
  | .invalidParam cause => some cause.message
  | .sign cause => some cause.message
  | .config cause => some ("invalid configuration: " ++ cause.message)
  | .unsupported what => some (what ++ " are not supported by this executor")

/-- The kind of a service error. -/
def kind? : Error → Option ErrorKind
  | .service cause => some cause.kind
  | _ => none

/-- May the same request succeed later? -/
def isRetryable (e : Error) : Bool := (e.kind?.map ErrorKind.isRetryable).getD false

/-! ### What can be seen before anything is sent -/

/-- Refuses a request in whose parameters a fault was found. -/
def checkParams : Option ParamError → Except Error Unit
  | some e => .error (.invalidParam e)
  | none => .ok ()

/-- Refuses a request with a document that has no wire form; the first one counts. -/
def checkDocuments : List Document → Except Error Unit
  | [] => .ok ()
  | m :: ms =>
    match m.toWire with
    | .ok _ => checkDocuments ms
    | .error e => .error (.encode e)

end Error

end Dynamo
