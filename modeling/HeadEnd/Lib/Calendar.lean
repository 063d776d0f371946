import Mathlib.Data.Int.Order.Basic

/-! The Gregorian calendar, counted in days from 1970-01-01. Years start in
March inside the computation, so that the leap day is the last one. -/
namespace HeadEnd.Calendar

structure Date where
  year : Int
  month : Int
  day : Int
  deriving DecidableEq, Repr

/-- A day in March years: the four-hundred-year era, then the century, the
four-year cycle and the year inside it, and the day of that year. -/
structure MarchDay where
  era : Int
  century : Int
  cycle : Int
  yearOfCycle : Int
  dayOfYear : Int

namespace MarchDay

/-- Days from 1 March of year 0 to the epoch. -/
def epochOffset : Int := 719468

def ofDay (z : Int) : MarchDay :=
  let dayOfEra := (z + epochOffset) % 146097
  let century := min (dayOfEra / 36524) 3
  let dayOfCentury := dayOfEra - century * 36524
  let cycle := dayOfCentury / 1461
  let dayOfCycle := dayOfCentury - cycle * 1461
  let yearOfCycle := min (dayOfCycle / 365) 3
  { era := (z + epochOffset) / 146097, century, cycle, yearOfCycle
    dayOfYear := dayOfCycle - yearOfCycle * 365 }

def year (p : MarchDay) : Int := p.era * 400 + p.century * 100 + p.cycle * 4 + p.yearOfCycle

def month (p : MarchDay) : Int := (5 * p.dayOfYear + 2) / 153

def date (p : MarchDay) : Date where
  year := if p.month < 10 then p.year else p.year + 1
  month := if p.month < 10 then p.month + 3 else p.month - 9
  day := p.dayOfYear - (153 * p.month + 2) / 5 + 1

/-- The ranges of the parts, which make the parts readable from their sum. -/
structure InRange (p : MarchDay) : Prop where
  century : 0 ≤ p.century ∧ p.century ≤ 3
  cycle : 0 ≤ p.cycle ∧ p.cycle ≤ 24
  yearOfCycle : 0 ≤ p.yearOfCycle ∧ p.yearOfCycle ≤ 3
  dayOfYear : 0 ≤ p.dayOfYear ∧ p.dayOfYear ≤ 365

def toDay (p : MarchDay) : Int :=
  p.era * 146097 + p.century * 36524 + p.cycle * 1461 + p.yearOfCycle * 365 + p.dayOfYear -
    epochOffset

theorem inRange_ofDay (z : Int) : InRange (ofDay z) := by
  have hera : 0 ≤ (z + epochOffset) % 146097 ∧ (z + epochOffset) % 146097 ≤ 146096 := by omega
  generalize hdoe : (z + epochOffset) % 146097 = doe at hera
  have hc : 0 ≤ min (doe / 36524) 3 ∧ min (doe / 36524) 3 ≤ 3 := by omega
  have hdoc : 0 ≤ doe - min (doe / 36524) 3 * 36524 ∧
      doe - min (doe / 36524) 3 * 36524 ≤ 36524 := by omega
  generalize hdoc' : doe - min (doe / 36524) 3 * 36524 = doc at hdoc
  have hdoq : 0 ≤ doc - doc / 1461 * 1461 ∧ doc - doc / 1461 * 1461 ≤ 1460 := by omega
  generalize hdoq' : doc - doc / 1461 * 1461 = doq at hdoq
  refine ⟨?_, ?_, ?_, ?_⟩ <;> simp only [ofDay, hdoe, hdoc', hdoq'] <;> omega

theorem toDay_ofDay (z : Int) : (ofDay z).toDay = z := by
  simp only [toDay, ofDay]
  omega

theorem month_range {p : MarchDay} (h : InRange p) : 0 ≤ p.month ∧ p.month ≤ 11 := by
  have hd := h.dayOfYear
  unfold month
  omega

theorem year_div {p : MarchDay} (h : InRange p) : p.year / 400 = p.era := by
  have hc := h.century
  have hq := h.cycle
  have hy := h.yearOfCycle
  unfold year
  omega

theorem year_mod {p : MarchDay} (h : InRange p) :
    p.year % 400 = p.century * 100 + p.cycle * 4 + p.yearOfCycle := by
  have hc := h.century
  have hq := h.cycle
  have hy := h.yearOfCycle
  unfold year
  omega

end MarchDay

def dateOf (z : Int) : Date := (MarchDay.ofDay z).date

/-- The day that the parts of a date lead to, whether or not the date exists. -/
def dayNumber (date : Date) : Int :=
  let marchYear := if date.month ≤ 2 then date.year - 1 else date.year
  let marchMonth := if date.month ≤ 2 then date.month + 9 else date.month - 3
  let yearOfEra := marchYear % 400
  marchYear / 400 * 146097 + (yearOfEra * 365 + yearOfEra / 4 - yearOfEra / 100) +
    ((153 * marchMonth + 2) / 5 + date.day - 1) - MarchDay.epochOffset

/-- A date exists when it is the date of its day. -/
def fromYmdOpt (date : Date) : Option Int :=
  if dateOf (dayNumber date) = date then some (dayNumber date) else none

theorem dayNumber_date {p : MarchDay} (h : p.InRange) : dayNumber p.date = p.toDay := by
  have hm := MarchDay.month_range h
  have hdiv := MarchDay.year_div h
  have hmod := MarchDay.year_mod h
  have hc := h.century
  have hq := h.cycle
  have hy := h.yearOfCycle
  have hquarter : (p.century * 100 + p.cycle * 4 + p.yearOfCycle) / 4 =
      p.century * 25 + p.cycle := by omega
  have hcentury : (p.century * 100 + p.cycle * 4 + p.yearOfCycle) / 100 = p.century := by omega
  by_cases hlt : p.month < 10
  · have hle : ¬ p.month + 3 ≤ 2 := by omega
    have hback : p.month + 3 - 3 = p.month := by omega
    simp only [dayNumber, MarchDay.date, if_pos hlt, if_neg hle, hback, hdiv, hmod, hquarter,
      hcentury, MarchDay.toDay]
    omega
  · have hle : p.month - 9 ≤ 2 := by omega
    have hback : p.month - 9 + 9 = p.month := by omega
    have hyear : p.year + 1 - 1 = p.year := by omega
    simp only [dayNumber, MarchDay.date, if_neg hlt, if_pos hle, hback, hyear, hdiv, hmod,
      hquarter, hcentury, MarchDay.toDay]
    omega

theorem fromYmdOpt_dateOf (z : Int) : fromYmdOpt (dateOf z) = some z := by
  have hday : dayNumber (dateOf z) = z := by
    rw [dateOf, dayNumber_date (MarchDay.inRange_ofDay z), MarchDay.toDay_ofDay]
  rw [fromYmdOpt, hday, if_pos rfl]

example : dateOf 0 = ⟨1970, 1, 1⟩ ∧ dateOf 19782 = ⟨2024, 2, 29⟩ ∧
    fromYmdOpt ⟨2023, 2, 29⟩ = none := by decide

end HeadEnd.Calendar
