import Mathlib.Data.Int.Order.Basic
import Mathlib.Order.Basic

/-! The proleptic Gregorian calendar: which years are leap, how long a month is, and how many
days there are before a date. The years of the count start in March, so that the day a leap
year adds comes last in them. -/

namespace Calendar

def IsLeap (year : Int) : Prop := year % 4 = 0 ∧ (year % 100 ≠ 0 ∨ year % 400 = 0)

instance (year : Int) : Decidable (IsLeap year) := inferInstanceAs (Decidable (_ ∧ _))

def monthLength (year month : Int) : Int :=
  if month = 2 then if IsLeap year then 29 else 28
  else if month = 4 ∨ month = 6 ∨ month = 9 ∨ month = 11 then 30
  else 31

structure Date where
  year : Int
  month : Int
  day : Int

namespace Date

structure Valid (date : Date) : Prop where
  month : 1 ≤ date.month ∧ date.month ≤ 12
  day : 1 ≤ date.day ∧ date.day ≤ monthLength date.year date.month

def marchYear (date : Date) : Int := if date.month ≤ 2 then date.year - 1 else date.year

def marchMonth (date : Date) : Int := if date.month > 2 then date.month - 3 else date.month + 9

end Date

/-- The days of a year that starts in March before one of its months. -/
def beforeMonth (index : Int) : Int := (153 * index + 2) / 5

/-- The days before a year that starts in March, from the year 0 on. -/
def beforeYear (year : Int) : Int := 365 * year + year / 4 - year / 100 + year / 400

def Date.dayOfYear (date : Date) : Int := beforeMonth date.marchMonth + date.day - 1

/-- The first of March of the year 0, from the first of January 1970. -/
def epochDays : Int := 719468

/-- Days from the first of January 1970. -/
def daysFromCivil (date : Date) : Int := beforeYear date.marchYear + date.dayOfYear - epochDays

variable {date other : Date}

theorem beforeYear_mono {earlier later : Int} (ordered : earlier ≤ later) : beforeYear earlier ≤ beforeYear later := by
  unfold beforeYear
  omega

theorem dayOfYear_range (valid : date.Valid) :
    0 ≤ date.dayOfYear ∧ date.dayOfYear < beforeYear (date.marchYear + 1) - beforeYear date.marchYear := by
  obtain ⟨year, month, day⟩ := date
  obtain ⟨⟨low, high⟩, first, last⟩ := valid
  simp only [Date.dayOfYear, Date.marchYear, Date.marchMonth, beforeYear, beforeMonth, monthLength, IsLeap] at *
  grind

theorem day_range (valid : date.Valid) :
    1 ≤ date.day ∧ date.day ≤ beforeMonth (date.marchMonth + 1) - beforeMonth date.marchMonth := by
  obtain ⟨year, month, day⟩ := date
  obtain ⟨⟨low, high⟩, first, last⟩ := valid
  simp only [Date.marchMonth, beforeMonth, monthLength, IsLeap] at *
  grind

/-- A date is known by the year that starts in March, the month of it and the day. -/
theorem date_ext (left : date.Valid) (right : other.Valid) (years : date.marchYear = other.marchYear)
    (months : date.marchMonth = other.marchMonth) (days : date.day = other.day) : date = other := by
  obtain ⟨year, month, day⟩ := date
  obtain ⟨year', month', day'⟩ := other
  obtain ⟨⟨low, high⟩, -⟩ := left
  obtain ⟨⟨low', high'⟩, -⟩ := right
  simp only [Date.marchYear, Date.marchMonth] at *
  grind

theorem daysFromCivil_injOn (left : date.Valid) (right : other.Valid) (same : daysFromCivil date = daysFromCivil other) :
    date = other := by
  have before := dayOfYear_range left
  have after := dayOfYear_range right
  unfold daysFromCivil at same
  have years : date.marchYear = other.marchYear := by
    rcases lt_trichotomy date.marchYear other.marchYear with earlier | same | later
    · have := beforeYear_mono (Int.add_one_le_of_lt earlier)
      omega
    · exact same
    · have := beforeYear_mono (Int.add_one_le_of_lt later)
      omega
  rw [years] at same
  have days : date.dayOfYear = other.dayOfYear := by omega
  have first := day_range left
  have second := day_range right
  simp only [Date.dayOfYear, beforeMonth] at days first second
  have months : date.marchMonth = other.marchMonth := by omega
  exact date_ext left right years months (by rw [months] at days; omega)

end Calendar
