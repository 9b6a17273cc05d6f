import MissionControl.Projections.Artifacts
import MissionControl.Lib.Calendar

/-! The rendering of an instant in the machine's arithmetic: a sum, a difference or a product
that an `i64` cannot hold stops it. -/

namespace MissionControl.Projections
open Calendar

/-- The result of an operation on `i64`, unless it overflows. -/
def i64 (value : Int) : Option Int := if -2 ^ 63 ≤ value ∧ value < 2 ^ 63 then some value else none

def u32OrDefault (value : Int) : Int := if 0 ≤ value ∧ value < 2 ^ 32 then value else 0

/-- `civil_from_days`. Only a division of `i64::MIN` by -1 would overflow, and every divisor is a
positive literal. -/
def checkedCivilFromDays (days : Int) : Option Date := do
  let z ← i64 (days + 719468)
  let shifted ← i64 (if z ≥ 0 then z else z - 146096)
  let era := shifted.tdiv 146097
  let before ← i64 (era * 146097)
  let dayOfEra ← i64 (z - before)
  let withoutFourths ← i64 (dayOfEra - dayOfEra.tdiv 1460)
  let withCenturies ← i64 (withoutFourths + dayOfEra.tdiv 36524)
  let regular ← i64 (withCenturies - dayOfEra.tdiv 146096)
  let yearOfEra := regular.tdiv 365
  let eraYears ← i64 (era * 400)
  let year ← i64 (yearOfEra + eraYears)
  let plain ← i64 (365 * yearOfEra)
  let leaps ← i64 (plain + yearOfEra.tdiv 4)
  let beforeYear ← i64 (leaps - yearOfEra.tdiv 100)
  let dayOfYear ← i64 (dayOfEra - beforeYear)
  let fifths ← i64 (5 * dayOfYear)
  let monthPrime := (← i64 (fifths + 2)).tdiv 153
  let monthDays ← i64 (153 * monthPrime)
  let beforeMonth := (← i64 (monthDays + 2)).tdiv 5
  let daysLeft ← i64 (dayOfYear - beforeMonth)
  let day := u32OrDefault (← i64 (daysLeft + 1))
  let month := u32OrDefault (← i64 (if monthPrime < 10 then monthPrime + 3 else monthPrime - 9))
  let year ← i64 (if month ≤ 2 then year + 1 else year)
  return ⟨year, month, day⟩

structure CivilInstant where
  date : Date
  hour : Int
  minute : Int
  second : Int
  millis : Int

namespace CivilInstant

def text (instant : CivilInstant) : String :=
  padded 4 instant.date.year ++ "-" ++ padded 2 instant.date.month ++ "-" ++ padded 2 instant.date.day ++ "T" ++
    padded 2 instant.hour ++ ":" ++ padded 2 instant.minute ++ ":" ++ padded 2 instant.second ++ "." ++
    padded 3 instant.millis ++ "Z"

structure Valid (instant : CivilInstant) : Prop where
  date : instant.date.Valid
  hour : 0 ≤ instant.hour ∧ instant.hour ≤ 23
  minute : 0 ≤ instant.minute ∧ instant.minute ≤ 59
  second : 0 ≤ instant.second ∧ instant.second ≤ 59
  millis : 0 ≤ instant.millis ∧ instant.millis ≤ 999

def unixMillis (instant : CivilInstant) : Int :=
  daysFromCivil instant.date * 86400000 + instant.hour * 3600000 + instant.minute * 60000 + instant.second * 1000 +
    instant.millis

end CivilInstant

def civilInstant (instant : UtcTimestamp) : Option CivilInstant := do
  let millisOfDay := instant.unixMillis % 86400000
  let midnight ← i64 (instant.unixMillis - millisOfDay)
  let date ← checkedCivilFromDays (midnight.tdiv 86400000)
  return {
    date
    hour := millisOfDay.tdiv 3600000
    minute := (millisOfDay.tdiv 60000).tmod 60
    second := (millisOfDay.tdiv 1000).tmod 60
    millis := millisOfDay.tmod 1000 }

def checkedRfc3339Utc (instant : UtcTimestamp) : Option String := (civilInstant instant).map (·.text)

end MissionControl.Projections
