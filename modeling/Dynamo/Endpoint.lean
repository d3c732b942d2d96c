import Dynamo.Endpoint.Uri
import Dynamo.Text.Blank

/-! # Endpoints

Where requests are sent. What a user gives is brought into one form, scheme, authority and a path,
if it can be; otherwise it stays as it is, and whoever sends requests refuses it. -/

namespace Dynamo.Endpoint

/-- The endpoint of the service in a region. -/
def regional (region : String) : String := "https://dynamodb." ++ region ++ ".amazonaws.com/"

/-- The text of an absolute URI, with a path and without a fragment. -/
def absolute (scheme authority : String) (u : Uri) : String :=
  let path := if u.path.toList.head? = some '/' then u.path else "/" ++ u.path
  scheme ++ "://" ++ authority ++ path ++ u.queryText

/-- **The endpoint in its usual form.** -/
def normalize (text : String) : String :=
  let text := Text.trim text
  match Uri.ofString? text with
  | some u =>
    match u.scheme, u.authority with
    | some scheme, some authority => absolute scheme authority u
    | _, _ => text
  | none => text

end Dynamo.Endpoint
