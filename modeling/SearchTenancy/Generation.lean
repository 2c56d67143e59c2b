/-!
# Names of indices

A logical index of a tenant is addressed through the alias `<tenant>_<name>`, its
physical id. The storage behind the alias is a generation, an index named
`<alias>_<year>.<month>.<day>.<milliseconds>` after the instant of its creation; the
date is that of the proleptic Gregorian calendar in UTC, written without padding.
-/

namespace SearchTenancy

/-- The physical id of a logical index. -/
def physicalId (tenant name : String) : String := tenant ++ "_" ++ name

/-- A date of the proleptic Gregorian calendar. -/
structure CivilDate where
  year : Int
  month : Int
  day : Int
  deriving DecidableEq

/-- The date that lies `days` after the first of January 1970. The computation counts in periods
of 400 years, which have 146097 days, and lets a year begin in March, so that the leap day is
its last day. -/
def CivilDate.ofDays (days : Int) : CivilDate :=
  let fromMarch := days + 719468
  let period := fromMarch / 146097
  let dayOfPeriod := fromMarch % 146097
  let yearOfPeriod :=
    (dayOfPeriod - dayOfPeriod / 1460 + dayOfPeriod / 36524 - dayOfPeriod / 146096) / 365
  let dayOfYear := dayOfPeriod - (365 * yearOfPeriod + yearOfPeriod / 4 - yearOfPeriod / 100)
  let monthFromMarch := (5 * dayOfYear + 2) / 153
  let day := dayOfYear - (153 * monthFromMarch + 2) / 5 + 1
  let month := if monthFromMarch < 10 then monthFromMarch + 3 else monthFromMarch - 9
  let year := yearOfPeriod + period * 400 + (if month ≤ 2 then 1 else 0)
  ⟨year, month, day⟩

/-- An instant, in milliseconds since the start of 1970 in UTC. The calendar covers about 262000
years to either side. -/
structure Instant where
  millis : Int
  lower : -8334601228800000 ≤ millis
  upper : millis ≤ 8210266876799999

namespace Instant

/-- The instant `millis` milliseconds after the start of 1970, if the calendar covers it. -/
def ofMillis? (millis : Int) : Option Instant :=
  if h : -8334601228800000 ≤ millis ∧ millis ≤ 8210266876799999 then some ⟨millis, h.1, h.2⟩ else none

/-- The date in UTC. -/
def date (instant : Instant) : CivilDate := .ofDays (instant.millis / 86400000)

end Instant

/-- The name of the generation of `physical` that is created at an instant. -/
def generationName (physical : String) (instant : Instant) : String :=
  let date := instant.date
  physical ++ "_" ++ Int.repr date.year ++ "." ++ Int.repr date.month ++ "." ++ Int.repr date.day ++ "." ++
    Int.repr instant.millis

end SearchTenancy
