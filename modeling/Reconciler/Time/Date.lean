import Reconciler.Decimal
/-!
Days and dates of the proleptic Gregorian calendar. `Date.ofDay` and `Date.toDay`
count from 1970-01-01, and a date exists when it is the date of a day.
-/

set_option autoImplicit false

namespace Reconciler

structure Date where
  year : Int
  month : Nat
  day : Nat
  deriving DecidableEq, Repr

namespace Date

/-- Days from 0000-03-01, where a year of the count begins, to 1970-01-01. -/
def epochShift : Int := 719468

/-- Days in the 400 years after which the calendar repeats. -/
def cycle : Int := 146097

/-- The date of a day: the year begins in March, so that a leap day is the last day of
its year, of its four years and of its four centuries. -/
def ofDay (day : Int) : Date :=
  let z := day + epochShift
  let inCycle := z % cycle
  let century := min (inCycle / 36524) 3
  let inCentury := inCycle - century * 36524
  let four := inCentury / 1461
  let inFour := inCentury % 1461
  let one := min (inFour / 365) 3
  let doy := inFour - one * 365
  let march := (5 * doy + 2) / 153
  let month := if march < 10 then march + 3 else march - 9
  let year := z / cycle * 400 + century * 100 + four * 4 + one
  { year := if month ≤ 2 then year + 1 else year
    month := month.toNat
    day := (doy - (153 * march + 2) / 5 + 1).toNat }

def toDay (d : Date) : Int :=
  let year : Int := if d.month ≤ 2 then d.year - 1 else d.year
  let march : Int := if 2 < d.month then d.month - 3 else d.month + 9
  let inCycle := year % 400
  let doy := (153 * march + 2) / 5 + d.day - 1
  year / 400 * cycle + (inCycle * 365 + inCycle / 4 - inCycle / 100 + doy) - epochShift

/-- There is a day with this date. -/
def isValid (d : Date) : Bool := ofDay d.toDay = d

theorem toDay_ofDay (day : Int) : (ofDay day).toDay = day := by
  unfold ofDay toDay epochShift cycle
  simp only
  generalize hz : day + 719468 = z
  have hcycle : 0 ≤ z % 146097 ∧ z % 146097 < 146097 := by omega
  have hsplit : z / 146097 * 146097 + z % 146097 = z := by omega
  generalize z % 146097 = inCycle at *
  generalize z / 146097 = era at *
  have hcentury : 0 ≤ min (inCycle / 36524) 3 ∧ min (inCycle / 36524) 3 ≤ 3 ∧
      0 ≤ inCycle - min (inCycle / 36524) 3 * 36524 ∧
      inCycle - min (inCycle / 36524) 3 * 36524 ≤ 36524 := by omega
  generalize min (inCycle / 36524) 3 = century at *
  generalize hc : inCycle - century * 36524 = inCentury at *
  have hfour : 0 ≤ inCentury / 1461 ∧ inCentury / 1461 ≤ 24 ∧ 0 ≤ inCentury % 1461 ∧
      inCentury % 1461 < 1461 ∧ inCentury / 1461 * 1461 + inCentury % 1461 = inCentury := by omega
  generalize inCentury % 1461 = inFour at *
  generalize inCentury / 1461 = four at *
  have hone : 0 ≤ min (inFour / 365) 3 ∧ min (inFour / 365) 3 ≤ 3 ∧
      0 ≤ inFour - min (inFour / 365) 3 * 365 ∧ inFour - min (inFour / 365) 3 * 365 ≤ 365 := by
    omega
  generalize min (inFour / 365) 3 = one at *
  generalize hd : inFour - one * 365 = doy at *
  have hmarch : 0 ≤ (5 * doy + 2) / 153 ∧ (5 * doy + 2) / 153 ≤ 11 ∧
      0 ≤ doy - (153 * ((5 * doy + 2) / 153) + 2) / 5 := by omega
  generalize (5 * doy + 2) / 153 = march at *
  have hyear : (era * 400 + century * 100 + four * 4 + one) / 400 = era ∧
      (era * 400 + century * 100 + four * 4 + one) % 400 = century * 100 + four * 4 + one := by
    omega
  have hquarter : (century * 100 + four * 4 + one) / 4 = century * 25 + four ∧
      (century * 100 + four * 4 + one) / 100 = century := by omega
  by_cases early : march < 10
  · have month : ¬ ((march + 3).toNat ≤ 2) := by omega
    have month' : ¬ (march + 3 ≤ 2) := by omega
    have place : 2 < (march + 3).toNat := by omega
    simp only [early, if_true, month, month', if_false, place, hyear, hquarter]
    have back : (((march + 3).toNat : Int) - 3) = march := by omega
    rw [back]; omega
  · have month : (march - 9).toNat ≤ 2 := by omega
    have month' : march - 9 ≤ 2 := by omega
    have place : ¬ (2 < (march - 9).toNat) := by omega
    have back : (((march - 9).toNat : Int) + 9) = march := by omega
    have year : era * 400 + century * 100 + four * 4 + one + 1 - 1 =
      era * 400 + century * 100 + four * 4 + one := by omega
    simp only [early, if_true, month, month', if_false, place, year, hyear, hquarter, back]
    omega

theorem isValid_ofDay (day : Int) : (ofDay day).isValid = true := by
  simp [isValid, toDay_ofDay]

end Date

end Reconciler
