import Dynamo.Shape
import Dynamo.Service.ErrorKind
import Dynamo.Service.Status

/-! # Errors of the service

A failed request is answered by an object with the type of the error, which names an exception
behind the last `#`, and a message. A body that is no such object is kept too, as an error of
unknown kind.

* `ServiceError.ofResponse` reads the answer. -/

namespace Dynamo

/-- The body of an error answer. -/
structure ErrorResponse where
  errorType : String
  message : String := ""
  deriving DecidableEq, Inhabited

namespace ErrorResponse

/-- The shape of error answers. -/
def shape : Shape ErrorResponse :=
  .record <|
    (Fields.cons (.required "__type" .string) <|
      .one { Member.defaulted "message" .string "" with aliases := ["Message"] }).iso
    (fun r => (r.errorType, r.message)) fun (errorType, message) => { errorType, message }

/-- What stands behind the last `#`, or everything if there is none. -/
def afterLastHash (s : String) : String :=
  String.ofList ((s.toList.reverse.takeWhile (· ≠ '#')).reverse)

/-- The exception that the type names. -/
def exception (r : ErrorResponse) : String := afterLastHash r.errorType

/-- The kind of the exception. -/
def kind (r : ErrorResponse) : ErrorKind := .ofException r.exception

/-- The error answer in a body. -/
def ofBytes? (body : Bytes) : Option ErrorResponse := (shape.ofBytes body).toOption

end ErrorResponse

/-- **An error of the service**, with the exchange that led to it. -/
structure ServiceError where
  kind : ErrorKind
  errorType : String
  exception : String
  message : String
  status : Nat
  requestBody : Bytes
  responseBody : Bytes
  deriving DecidableEq, Inhabited

namespace ServiceError

/-- The message of an answer that is no error answer; the reader does not say where it stopped. -/
def unreadable : String := "could not parse error response: <json error>"

/-- **The error that an answer says.** -/
def ofResponse (status : Nat) (requestBody responseBody : Bytes) : ServiceError :=
  match ErrorResponse.ofBytes? responseBody with
  | some r =>
    { kind := r.kind, errorType := r.errorType, exception := r.exception, message := r.message
      status, requestBody, responseBody }
  | none =>
    { kind := .unknown, errorType := "", exception := "", message := unreadable
      status, requestBody, responseBody }

/-- An error of a kind, without an exchange. -/
def new (kind : ErrorKind) (message : String) : ServiceError :=
  { kind, errorType := kind.name, exception := kind.name, message, status := 400
    requestBody := [], responseBody := [] }

/-- The name of the error: its exception, or its kind if no exception is named. -/
def displayName (e : ServiceError) : String :=
  if e.exception.isEmpty then e.kind.name else e.exception

/-- One line about the error. -/
def summary (e : ServiceError) : String :=
  e.displayName ++ ": " ++ e.message ++ " (status " ++ Status.text e.status ++ ")"

/-- May the same request succeed later? -/
def isRetryable (e : ServiceError) : Bool := e.kind.isRetryable

end ServiceError

end Dynamo
