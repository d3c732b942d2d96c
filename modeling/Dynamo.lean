import Dynamo.Catalogue
import Dynamo.Json.Printer
import Dynamo.Mock
import Dynamo.Requester
import Dynamo.Value.Document
import Dynamo.Value.Plain
import Dynamo.Proofs.Dict
import Dynamo.Proofs.Except
import Dynamo.Proofs.Text.Base64
import Dynamo.Proofs.Value.Parts
import Dynamo.Proofs.Wire.Grammar
import Dynamo.Proofs.Wire.Codec
import Dynamo.Proofs.Bindings
import Dynamo.Proofs.Shape
import Dynamo.Proofs.Request.Chain
import Dynamo.Proofs.Json.Normal
import Dynamo.Proofs.Wire.Acceptance
import Dynamo.Proofs.Decimal.Grammar
import Dynamo.Proofs.Wire.Reencoding
import Dynamo.Proofs.Decimal.Printed
import Dynamo.Proofs.Value.Numbers
import Dynamo.Proofs.Decimal.Underflow
import Dynamo.Proofs.Decimal.Exact
import Dynamo.Proofs.Value.Truth
import Dynamo.Proofs.Wire.Verbatim
import Dynamo.Proofs.Request.Pager
import Dynamo.Proofs.Mock
import Dynamo.Proofs.Request.Placeholders
import Dynamo.Proofs.Signing.Headers
import Dynamo.Proofs.Signing.Canonical
import Dynamo.Proofs.Signing.Verification
import Dynamo.Proofs.Signing.Resigning
import Dynamo.Proofs.Text.Blank
import Dynamo.Proofs.Signing.HeaderLines
import Dynamo.Proofs.Json.Restating
import Dynamo.Proofs.Shape.ReadBack
import Dynamo.Proofs.Request.Batch
import Dynamo.Proofs.Request.Retry
import Dynamo.Proofs.Bindings.Forks
import Dynamo.Proofs.Request.Batch.Settings
import Dynamo.Proofs.Request.Batch.Chain
import Dynamo.Proofs.Service.Classification
import Dynamo.Proofs.Shape.TwoWay
import Dynamo.Proofs.Endpoint.Uri
import Dynamo.Proofs.Endpoint.Acceptance
import Dynamo.Proofs.Requester.Body
import Dynamo.Proofs.Value.Integers
import Dynamo.Proofs.Endpoint.Normalization
import Dynamo.Proofs.Value.Times
import Dynamo.Proofs.Table.Declarations
import Dynamo.Proofs.Mock.History
import Dynamo.Proofs.Value.Plain
