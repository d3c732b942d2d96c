import Dynamo.Text.Quoted

/-! # Credentials -/

namespace Dynamo

/-- Who signs, and for which region and service. -/
structure Credentials where
  region : String
  accessKey : String
  secretKey : String
  service : String := "dynamodb"
  deriving DecidableEq, Inhabited

namespace Credentials

/-- What ends the scope of a signature, and the chain of its keys. -/
def terminator : String := "aws4_request"

/-- The scope that signatures of a day hold in. -/
def scope (c : Credentials) (date : String) : String :=
  "/".intercalate [date, c.region, c.service, terminator]

/-- One line about the credentials, which never shows the secret. -/
def summary (c : Credentials) : String :=
  "Credentials \x7b region: " ++ Text.quoted c.region ++ ", access_key: " ++
    Text.quoted c.accessKey ++ ", secret_key: " ++ Text.quoted "<redacted>" ++ ", service: " ++
    Text.quoted c.service ++ " \x7d"

end Credentials

end Dynamo
