/-! # Kinds of service errors

The service names its errors by exceptions. The kinds gather what a caller does the same about. -/

namespace Dynamo

/-- **A kind of error.** -/
inductive ErrorKind where
  | conditionCheckFailed
  | collectionSizeExceeded
  | throughputExceeded
  | resourceNotFound
  | internalFailure
  | auth
  | invalidParameter
  | serviceUnavailable
  | throttling
  | resourceInUse
  | expiredIterator
  | trimmedData
  | unknown
  deriving DecidableEq, Repr, Inhabited

namespace ErrorKind

/-- All kinds. -/
def all : List ErrorKind :=
  [.conditionCheckFailed, .collectionSizeExceeded, .throughputExceeded, .resourceNotFound,
    .internalFailure, .auth, .invalidParameter, .serviceUnavailable, .throttling, .resourceInUse,
    .expiredIterator, .trimmedData, .unknown]

/-- The name of a kind. -/
def name : ErrorKind → String
  | .conditionCheckFailed => "ConditionCheckFailed"
  | .collectionSizeExceeded => "CollectionSizeExceeded"
  | .throughputExceeded => "ThroughputExceeded"
  | .resourceNotFound => "ResourceNotFound"
  | .internalFailure => "InternalFailure"
  | .auth => "Auth"
  | .invalidParameter => "InvalidParameter"
  | .serviceUnavailable => "ServiceUnavailable"
  | .throttling => "Throttling"
  | .resourceInUse => "ResourceInUse"
  | .expiredIterator => "ExpiredIterator"
  | .trimmedData => "TrimmedData"
  | .unknown => "Unknown"

/-- The exceptions of a kind. -/
def exceptions : ErrorKind → List String
  | .conditionCheckFailed => ["ConditionalCheckFailedException"]
  | .collectionSizeExceeded => ["ItemCollectionSizeLimitExceededException"]
  | .throughputExceeded => ["ProvisionedThroughputExceededException"]
  | .resourceNotFound => ["ResourceNotFoundException"]
  | .internalFailure => ["InternalFailure", "InternalServerError"]
  | .auth =>
    ["IncompleteSignature", "IncompleteSignatureException", "InvalidSignatureException",
      "MissingAuthenticationToken", "OptInRequired", "RequestExpired",
      "UnrecognizedClientException"]
  | .invalidParameter =>
    ["InvalidParameterCombination", "InvalidParameterValue", "InvalidQueryParameter",
      "MalformedQueryString", "MissingAction", "MissingParameter", "ValidationError",
      "ValidationException"]
  | .serviceUnavailable => ["ServiceUnavailable", "ServiceUnavailableException"]
  | .throttling => ["ThrottlingException", "LimitExceededException"]
  | .resourceInUse => ["ResourceInUseException"]
  | .expiredIterator => ["ExpiredIteratorException"]
  | .trimmedData => ["TrimmedDataAccessException"]
  | .unknown => []

/-- The kind of an exception. -/
def ofException (name : String) : ErrorKind :=
  (all.find? fun k => k.exceptions.contains name).getD .unknown

/-- May the same request succeed later? -/
def isRetryable : ErrorKind → Bool
  | .throttling | .throughputExceeded | .serviceUnavailable => true
  | _ => false

end ErrorKind

end Dynamo
