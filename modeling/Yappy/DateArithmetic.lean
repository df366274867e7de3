import Mathlib

/-!
# Dates of the language

Instants are milliseconds since 1970 in the proleptic Gregorian calendar, at most 8.64e15 of them away from it.
-/
namespace Yappy.Dates

def msPerDay : ℤ := 86400000

def day (t : ℤ) : ℤ := t / msPerDay

def dayFromYear (y : ℤ) : ℤ := 365 * (y - 1970) + (y - 1969) / 4 - (y - 1901) / 100 + (y - 1601) / 400

def yearFromDay (d : ℤ) : ℤ :=
  let guess := 1970 + d * 400 / 146097
  if d < dayFromYear guess then guess - 1
  else if dayFromYear (guess + 1) ≤ d then guess + 1
  else guess

def leap (y : ℤ) : ℤ := dayFromYear (y + 1) - dayFromYear y - 365

/-- The days of the year before a month, January being the month 0. -/
def monthStart (leap month : ℤ) : ℤ :=
  if month ≤ 0 then 0
  else if month = 1 then 31
  else if month = 2 then 59 + leap
  else if month = 3 then 90 + leap
  else if month = 4 then 120 + leap
  else if month = 5 then 151 + leap
  else if month = 6 then 181 + leap
  else if month = 7 then 212 + leap
  else if month = 8 then 243 + leap
  else if month = 9 then 273 + leap
  else if month = 10 then 304 + leap
  else 334 + leap

def monthWithin (leap within : ℤ) : ℤ :=
  if within < 31 then 0
  else if within < 59 + leap then 1
  else if within < 90 + leap then 2
  else if within < 120 + leap then 3
  else if within < 151 + leap then 4
  else if within < 181 + leap then 5
  else if within < 212 + leap then 6
  else if within < 243 + leap then 7
  else if within < 273 + leap then 8
  else if within < 304 + leap then 9
  else if within < 334 + leap then 10
  else 11

def dayWithinYear (d : ℤ) : ℤ := d - dayFromYear (yearFromDay d)

def monthFromDay (d : ℤ) : ℤ := monthWithin (leap (yearFromDay d)) (dayWithinYear d)

def dateFromDay (d : ℤ) : ℤ := dayWithinYear d - monthStart (leap (yearFromDay d)) (monthFromDay d) + 1

def makeDay (year month date : ℤ) : ℤ :=
  let y := year + month / 12
  dayFromYear y + monthStart (leap y) (month % 12) + date - 1

def maxTime : ℤ := 8640000000000000

def timeClip (t : ℤ) : Option ℤ := if -maxTime ≤ t ∧ t ≤ maxTime then some t else none

/-- `Date.UTC` takes a year of one or two digits for one of the last century. -/
def fullYear (y : ℤ) : ℤ := if 0 ≤ y ∧ y ≤ 99 then 1900 + y else y

/-- `Date.UTC` of a date and a time of the day. -/
def utc (year month date ms : ℤ) : Option ℤ := timeClip (makeDay (fullYear year) month date * msPerDay + ms)

end Yappy.Dates
