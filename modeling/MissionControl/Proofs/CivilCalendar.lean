import MissionControl.Projections.Instants

/-! A rendered instant is the date and the time of day of that instant in the proleptic Gregorian
calendar, and rendering it never overflows. -/

namespace MissionControl.CivilCalendar
open Projections Calendar

/-- The division the year of an era is found by: the days of an era without the days that leap
years add. -/
def regularDays (dayOfEra : Int) : Int := dayOfEra - dayOfEra / 1460 + dayOfEra / 36524 - dayOfEra / 146096

theorem regularDays_succ (day : Int) : regularDays day ≤ regularDays (day + 1) := by
  unfold regularDays
  omega

theorem regularDays_mono {first last : Int} (order : first ≤ last) : regularDays first ≤ regularDays last :=
  monotone_int_of_le_succ regularDays_succ order

theorem regularDays_ends : ∀ year : Fin 400, regularDays (beforeYear year) / 365 = year ∧
    regularDays (beforeYear (year + 1) - 1) / 365 = year := by
  decide +kernel

theorem year_ends {year : Int} (low : 0 ≤ year) (high : year < 400) : regularDays (beforeYear year) / 365 = year ∧
    regularDays (beforeYear (year + 1) - 1) / 365 = year := by
  obtain ⟨index, rfl⟩ := Int.eq_ofNat_of_zero_le low
  exact regularDays_ends ⟨index, by omega⟩

theorem yearOfEra_holds {dayOfEra : Int} (low : 0 ≤ dayOfEra) (high : dayOfEra < 146097) :
    0 ≤ regularDays dayOfEra / 365 ∧ regularDays dayOfEra / 365 < 400 ∧
      beforeYear (regularDays dayOfEra / 365) ≤ dayOfEra ∧ dayOfEra < beforeYear (regularDays dayOfEra / 365 + 1) := by
  have first : regularDays 0 ≤ regularDays dayOfEra := regularDays_mono low
  have last : regularDays dayOfEra ≤ regularDays 146096 := regularDays_mono (Int.le_of_lt_add_one high)
  rw [show regularDays 0 = 0 from rfl] at first
  rw [show regularDays 146096 = 145999 from rfl] at last
  generalize found : regularDays dayOfEra / 365 = year
  have starts : 0 ≤ year := by omega
  have ends : year < 400 := by omega
  refine ⟨starts, ends, ?_, ?_⟩
  · -- A day before the year would belong to the year before.
    by_contra earlier
    have bound := regularDays_mono (Int.le_sub_one_of_lt (not_le.mp earlier))
    rcases starts.eq_or_lt with rfl | later
    · exact earlier low
    · have before := (year_ends (Int.le_sub_one_of_lt later) (by omega)).2
      rw [Int.sub_add_cancel] at before
      omega
  · by_contra later
    have bound := regularDays_mono (not_lt.mp later)
    rcases (Int.le_sub_one_of_lt ends).eq_or_lt with rfl | earlier
    · exact later high
    · have after := (year_ends (Int.le_add_one starts) (by omega)).1
      omega

section
variable {α : Type} {value : Int}

theorem i64_some (low : -2 ^ 63 ≤ value) (high : value < 2 ^ 63) : i64 value = some value := if_pos ⟨low, high⟩

theorem u32OrDefault_eq (low : 0 ≤ value) (high : value < 2 ^ 32) : u32OrDefault value = value := if_pos ⟨low, high⟩

theorem era_floor (z : Int) : (if z ≥ 0 then z else z - 146096).tdiv 146097 = z / 146097 := by
  split
  next positive => exact Int.tdiv_eq_ediv_of_nonneg positive
  next negative =>
    have turned : z - 146096 = -(146096 - z) := by omega
    rw [turned, Int.neg_tdiv, Int.tdiv_eq_ediv_of_nonneg (by omega)]
    omega

end

theorem month_holds {dayOfYear : Int} (low : 0 ≤ dayOfYear) (high : dayOfYear ≤ 365) :
    0 ≤ (5 * dayOfYear + 2) / 153 ∧ (5 * dayOfYear + 2) / 153 ≤ 11 ∧
      beforeMonth ((5 * dayOfYear + 2) / 153) ≤ dayOfYear ∧
      dayOfYear < beforeMonth ((5 * dayOfYear + 2) / 153 + 1) := by
  unfold beforeMonth
  omega

def dateOf (year monthPrime day : Int) : Date :=
  let month := if monthPrime < 10 then monthPrime + 3 else monthPrime - 9
  ⟨if month ≤ 2 then year + 1 else year, month, day⟩

section
variable {year monthPrime day : Int}

theorem dateOf_march (low : 0 ≤ monthPrime) (high : monthPrime ≤ 11) :
    (dateOf year monthPrime day).marchYear = year ∧ (dateOf year monthPrime day).marchMonth = monthPrime := by
  simp only [dateOf, Date.marchYear, Date.marchMonth]
  grind

theorem daysFromCivil_dateOf (low : 0 ≤ monthPrime) (high : monthPrime ≤ 11) :
    daysFromCivil (dateOf year monthPrime day) =
      beforeYear year + (beforeMonth monthPrime + day - 1) - epochDays := by
  obtain ⟨years, months⟩ := @dateOf_march year monthPrime day low high
  rw [daysFromCivil, Date.dayOfYear, years, months]
  rfl

theorem dateOf_valid (low : 0 ≤ monthPrime) (high : monthPrime ≤ 11) (first : 1 ≤ day)
    (within : day ≤ beforeMonth (monthPrime + 1) - beforeMonth monthPrime)
    (ends : beforeMonth monthPrime + day ≤ beforeYear (year + 1) - beforeYear year) :
    (dateOf year monthPrime day).Valid := by
  unfold beforeMonth at within ends
  by_cases early : monthPrime < 10
  · have month : dateOf year monthPrime day = ⟨year, monthPrime + 3, day⟩ := by grind [dateOf]
    rw [month]
    refine ⟨⟨by simp only; omega, by simp only; omega⟩, first, ?_⟩
    simp only [monthLength]
    grind
  · have month : dateOf year monthPrime day = ⟨year + 1, monthPrime - 9, day⟩ := by grind [dateOf]
    rw [month]
    refine ⟨⟨by simp only; omega, by simp only; omega⟩, first, ?_⟩
    simp only [monthLength, IsLeap]
    unfold beforeYear at ends
    grind

end

theorem beforeYear_succ_le (year : Int) : beforeYear (year + 1) ≤ beforeYear year + 366 := by
  unfold beforeYear
  omega

theorem beforeYear_era (era year : Int) : beforeYear (year + era * 400) = era * 146097 + beforeYear year := by
  unfold beforeYear
  omega

structure Falls (days era dayOfEra yearOfEra dayOfYear monthPrime : Int) : Prop where
  quotient : era = (days + 719468) / 146097
  remainder : dayOfEra = days + 719468 - era * 146097
  regular : yearOfEra = regularDays dayOfEra / 365
  inEra : 0 ≤ yearOfEra ∧ yearOfEra < 400
  inYear : beforeYear yearOfEra ≤ dayOfEra ∧ dayOfEra < beforeYear (yearOfEra + 1)
  rest : dayOfYear = dayOfEra - beforeYear yearOfEra
  monthly : monthPrime = (5 * dayOfYear + 2) / 153
  fromMarch : 0 ≤ monthPrime ∧ monthPrime ≤ 11
  inMonth : beforeMonth monthPrime ≤ dayOfYear ∧ dayOfYear < beforeMonth (monthPrime + 1)

theorem falls (days : Int) : ∃ era dayOfEra yearOfEra dayOfYear monthPrime,
    Falls days era dayOfEra yearOfEra dayOfYear monthPrime := by
  have low : 0 ≤ days + 719468 - (days + 719468) / 146097 * 146097 := by omega
  have high : days + 719468 - (days + 719468) / 146097 * 146097 < 146097 := by omega
  obtain ⟨first, last, begun, running⟩ := yearOfEra_holds low high
  have length := beforeYear_succ_le (regularDays (days + 719468 - (days + 719468) / 146097 * 146097) / 365)
  obtain ⟨march, february, entered, leaving⟩ := month_holds (Int.sub_nonneg_of_le begun) (by omega)
  exact ⟨_, _, _, _, _, rfl, rfl, rfl, ⟨first, last⟩, ⟨begun, running⟩, rfl, rfl, ⟨march, february⟩, ⟨entered, leaving⟩⟩

section
variable {days era dayOfEra yearOfEra dayOfYear monthPrime : Int}
  (falls : Falls days era dayOfEra yearOfEra dayOfYear monthPrime)
include falls

theorem Falls.valid : (dateOf (yearOfEra + era * 400) monthPrime (dayOfYear - beforeMonth monthPrime + 1)).Valid := by
  obtain ⟨_, _, _, _, running, left, _, ⟨march, february⟩, entered, leaving⟩ := falls
  refine dateOf_valid march february (by omega) (by omega) ?_
  rw [show yearOfEra + era * 400 + 1 = yearOfEra + 1 + era * 400 by omega, beforeYear_era, beforeYear_era]
  omega

theorem Falls.counted :
    daysFromCivil (dateOf (yearOfEra + era * 400) monthPrime (dayOfYear - beforeMonth monthPrime + 1)) = days := by
  obtain ⟨_, whole, _, _, _, left, _, ⟨march, february⟩, _⟩ := falls
  rw [daysFromCivil_dateOf march february, beforeYear_era, epochDays]
  omega

theorem Falls.truncated : (∀ divisor, dayOfEra.tdiv divisor = dayOfEra / divisor) ∧
    (regularDays dayOfEra).tdiv 365 = yearOfEra ∧ (∀ divisor, yearOfEra.tdiv divisor = yearOfEra / divisor) ∧
    (5 * dayOfYear + 2).tdiv 153 = monthPrime ∧ (153 * monthPrime + 2).tdiv 5 = beforeMonth monthPrime := by
  obtain ⟨quotient, remainder, regular, ⟨first, _⟩, ⟨begun, _⟩, rest, monthly, ⟨march, _⟩, _⟩ := falls
  have day : 0 ≤ dayOfEra := by omega
  refine ⟨fun _ => Int.tdiv_eq_ediv_of_nonneg day, ?_, fun _ => Int.tdiv_eq_ediv_of_nonneg first, ?_, ?_⟩
  · rw [regular, Int.tdiv_eq_ediv_of_nonneg (by omega)]
  · rw [monthly, Int.tdiv_eq_ediv_of_nonneg (by omega)]
  · exact Int.tdiv_eq_ediv_of_nonneg (by omega)

theorem Falls.years : beforeYear yearOfEra = 365 * yearOfEra + yearOfEra / 4 - yearOfEra / 100 := by
  obtain ⟨first, last⟩ := falls.inEra
  unfold beforeYear
  omega

theorem Falls.checked (low : -200000000000 ≤ days) (high : days ≤ 200000000000) :
    checkedCivilFromDays days =
      some (dateOf (yearOfEra + era * 400) monthPrime (dayOfYear - beforeMonth monthPrime + 1)) := by
  obtain ⟨dayTdiv, year, yearTdiv, month, entry⟩ := falls.truncated
  have years := falls.years
  have length := beforeYear_succ_le yearOfEra
  obtain ⟨quotient, remainder, regular, ⟨first, last⟩, ⟨begun, running⟩, rest, monthly, ⟨march, february⟩, entered, _⟩ :=
    falls
  have counted : 0 ≤ beforeMonth monthPrime := by unfold beforeMonth; omega
  have named : 1 ≤ (if monthPrime < 10 then monthPrime + 3 else monthPrime - 9) ∧
      (if monthPrime < 10 then monthPrime + 3 else monthPrime - 9) ≤ 12 := by split <;> omega
  dsimp only [checkedCivilFromDays]
  rw [i64_some (by omega) (by omega), Option.bind_eq_bind, Option.bind_some,
    i64_some (by split <;> omega) (by split <;> omega), Option.bind_some, era_floor, ← quotient,
    i64_some (by omega) (by omega), Option.bind_some, i64_some (by omega) (by omega), Option.bind_some, ← remainder]
  rw [dayTdiv, dayTdiv, dayTdiv, i64_some (by omega) (by omega), Option.bind_some, i64_some (by omega) (by omega),
    Option.bind_some, i64_some (by omega) (by omega), Option.bind_some, ← regularDays, year, yearTdiv, yearTdiv]
  rw [i64_some (by omega) (by omega), Option.bind_some, i64_some (by omega) (by omega), Option.bind_some,
    i64_some (by omega) (by omega), Option.bind_some, i64_some (by omega) (by omega), Option.bind_some,
    i64_some (by omega) (by omega), Option.bind_some, i64_some (by omega) (by omega), Option.bind_some, ← years, ← rest]
  rw [i64_some (by omega) (by omega), Option.bind_some, i64_some (by omega) (by omega), Option.bind_some, month,
    i64_some (by omega) (by omega), Option.bind_some, i64_some (by omega) (by omega), Option.bind_some, entry,
    i64_some (by omega) (by omega), Option.bind_some, i64_some (by omega) (by omega), Option.bind_some]
  rw [i64_some (by omega) (by omega), Option.bind_some, u32OrDefault_eq (by omega) (by omega),
    u32OrDefault_eq (by omega) (by omega), i64_some (by split <;> omega) (by split <;> omega), Option.bind_some]
  rfl

theorem Falls.unchecked {date : Date}
    (same : date = dateOf (yearOfEra + era * 400) monthPrime (dayOfYear - beforeMonth monthPrime + 1)) :
    civilFromDays days = (date.year, date.month, date.day) := by
  obtain ⟨dayTdiv, year, yearTdiv, month, entry⟩ := falls.truncated
  have years := falls.years
  obtain ⟨quotient, remainder, _, _, _, rest, _⟩ := falls
  dsimp only [civilFromDays]
  rw [era_floor, ← quotient, ← remainder, dayTdiv, dayTdiv, dayTdiv, ← regularDays, year, yearTdiv, yearTdiv, ← years,
    ← rest, month, entry, same]
  rfl

end

theorem checkedCivilFromDays_some {days : Int} (low : -200000000000 ≤ days) (high : days ≤ 200000000000) :
    ∃ date, checkedCivilFromDays days = some date ∧ date.Valid ∧ daysFromCivil date = days ∧
      civilFromDays days = (date.year, date.month, date.day) := by
  obtain ⟨_, _, _, _, _, falls⟩ := falls days
  exact ⟨_, falls.checked low high, falls.valid, falls.counted, falls.unchecked rfl⟩

theorem unixMillis_injOn {instant other : CivilInstant} (left : instant.Valid) (right : other.Valid)
    (same : instant.unixMillis = other.unixMillis) : instant = other := by
  obtain ⟨date, hour, minute, second, millis⟩ := instant
  obtain ⟨date', hour', minute', second', millis'⟩ := other
  obtain ⟨dates, ⟨_, _⟩, ⟨_, _⟩, ⟨_, _⟩, ⟨_, _⟩⟩ := left
  obtain ⟨dates', ⟨_, _⟩, ⟨_, _⟩, ⟨_, _⟩, ⟨_, _⟩⟩ := right
  simp only [CivilInstant.unixMillis] at *
  have days : daysFromCivil date = daysFromCivil date' := by omega
  cases daysFromCivil_injOn dates dates' days
  rw [days] at same
  congr <;> omega

theorem civilInstant_some (instant : UtcTimestamp) (late : -2 ^ 63 + 86400000 ≤ instant.unixMillis) :
    ∃ fields, civilInstant instant = some fields ∧ fields.Valid ∧ fields.unixMillis = instant.unixMillis ∧
      fields.text = toRfc3339Utc instant := by
  have upper := instant.upper
  have start : instant.unixMillis - instant.unixMillis % 86400000 = instant.unixMillis / 86400000 * 86400000 := by omega
  have truncated : (instant.unixMillis / 86400000 * 86400000).tdiv 86400000 = instant.unixMillis / 86400000 :=
    Int.mul_tdiv_cancel _ (by decide)
  have floored : instant.unixMillis / 86400000 * 86400000 / 86400000 = instant.unixMillis / 86400000 :=
    Int.mul_ediv_cancel _ (by decide)
  obtain ⟨date, found, valid, counted, unchecked⟩ :=
    @checkedCivilFromDays_some (instant.unixMillis / 86400000) (by omega) (by omega)
  have low : 0 ≤ instant.unixMillis % 86400000 := by omega
  have tdiv (divisor : Int) : (instant.unixMillis % 86400000).tdiv divisor = instant.unixMillis % 86400000 / divisor :=
    Int.tdiv_eq_ediv_of_nonneg low
  refine ⟨⟨date, instant.unixMillis % 86400000 / 3600000, instant.unixMillis % 86400000 / 60000 % 60,
    instant.unixMillis % 86400000 / 1000 % 60, instant.unixMillis % 86400000 % 1000⟩, ?_, ?_, ?_, ?_⟩
  · dsimp only [civilInstant]
    rw [start, i64_some (by omega) (by omega), Option.bind_eq_bind, Option.bind_some, truncated, found,
      Option.bind_eq_bind, Option.bind_some, tdiv, tdiv, tdiv, Int.tmod_eq_emod_of_nonneg (by omega),
      Int.tmod_eq_emod_of_nonneg (by omega), Int.tmod_eq_emod_of_nonneg low]
    rfl
  · constructor <;> simp only <;> first | exact valid | omega
  · simp only [CivilInstant.unixMillis, counted]
    omega
  · simp only [CivilInstant.text, toRfc3339Utc, start, floored, unchecked]

/-- An instant is rendered as its civil fields, which no other instant has. -/
theorem rendered_exactly (instant : UtcTimestamp) (late : -2 ^ 63 + 86400000 ≤ instant.unixMillis) :
    checkedRfc3339Utc instant = some (toRfc3339Utc instant) ∧ ∃ fields : CivilInstant,
      toRfc3339Utc instant = fields.text ∧ fields.Valid ∧ fields.unixMillis = instant.unixMillis ∧
      ∀ other : CivilInstant, other.Valid → other.unixMillis = instant.unixMillis → other = fields := by
  obtain ⟨fields, found, valid, exact, text⟩ := civilInstant_some instant late
  refine ⟨by rw [checkedRfc3339Utc, found, ← text]; rfl, fields, text.symm, valid, exact, ?_⟩
  intro other shown same
  exact unixMillis_injOn shown valid (same.trans exact.symm)

def leapEvening : UtcTimestamp := ⟨1709251199999, by decide, by decide⟩

theorem leapEvening_rendered : toRfc3339Utc leapEvening = "2024-02-29T23:59:59.999Z" ∧
    checkedRfc3339Utc leapEvening = some (toRfc3339Utc leapEvening) :=
  ⟨by decide +kernel, (rendered_exactly leapEvening (by decide)).1⟩

end MissionControl.CivilCalendar
