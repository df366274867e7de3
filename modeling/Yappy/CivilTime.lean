import Mathlib

/-!
# Civil time

The fields of an instant since 1970 in the Gregorian calendar, and its text with microseconds.
-/
namespace Yappy.CivilTime

structure Date where
  year : ℕ
  month : ℕ
  day : ℕ

/-- Days are counted from 1 March of the year 0, so that a leap day is the last of its year. -/
def epoch : ℕ := 719468

def daysBefore (month : ℕ) : ℕ := (153 * month + 2) / 5

def yearDays (year : ℕ) : ℕ := 365 * year + year / 4 - year / 100

def Date.ofYearDay (year day : ℕ) : Date :=
  let month := (5 * day + 2) / 153
  { year := if month < 10 then year else year + 1
    month := if month < 10 then month + 3 else month - 9
    day := day - daysBefore month + 1 }

def Date.ofDays (days : ℕ) : Date :=
  let ofEra := (days + epoch) % 146097
  let century := min (ofEra / 36524) 3
  let ofCentury := ofEra - century * 36524
  let year := min (ofCentury % 1461 / 365) 3
  .ofYearDay ((days + epoch) / 146097 * 400 + (century * 100 + (ofCentury / 1461 * 4 + year)))
    (ofCentury % 1461 - year * 365)

def Date.toDays (d : Date) : ℕ :=
  let year := if d.month ≤ 2 then d.year - 1 else d.year
  let month := if d.month ≤ 2 then d.month + 9 else d.month - 3
  year / 400 * 146097 + yearDays (year % 400) + daysBefore month + (d.day - 1) - epoch

/-- An instant in UTC. -/
structure Civil where
  date : Date
  hour : ℕ
  minute : ℕ
  second : ℕ
  micros : ℕ

def Civil.ofMicros (t : ℕ) : Civil where
  date := .ofDays (t / 86400000000)
  hour := t / 3600000000 % 24
  minute := t / 60000000 % 60
  second := t / 1000000 % 60
  micros := t % 1000000

def Civil.toMicros (c : Civil) : ℕ :=
  (((c.date.toDays * 24 + c.hour) * 60 + c.minute) * 60 + c.second) * 1000000 + c.micros

def padded (width n : ℕ) : List Char := (Nat.toDigits 10 n).leftpad width '0'

/-- `YYYY-MM-DD"T"HH24:MI:SS.US"Z"` -/
def Civil.iso (c : Civil) : List Char :=
  padded 4 c.date.year ++ ['-'] ++ padded 2 c.date.month ++ ['-'] ++ padded 2 c.date.day ++ ['T'] ++
    padded 2 c.hour ++ [':'] ++ padded 2 c.minute ++ [':'] ++ padded 2 c.second ++ ['.'] ++
    padded 6 c.micros ++ ['Z']

lemma toDays_ofYearDay {year day : ℕ} (hday : day ≤ 365) :
    (Date.ofYearDay year day).toDays = year / 400 * 146097 + yearDays (year % 400) + day - epoch := by
  have hmonth : (5 * day + 2) / 153 ≤ 11 := by omega
  have hbefore : daysBefore ((5 * day + 2) / 153) ≤ day := by
    unfold daysBefore
    omega
  unfold Date.ofYearDay Date.toDays
  by_cases h : (5 * day + 2) / 153 < 10
  · have hlate : ¬ (5 * day + 2) / 153 + 3 ≤ 2 := by omega
    simp only [if_pos h, if_neg hlate, Nat.add_sub_cancel]
    omega
  · have hearly : (5 * day + 2) / 153 - 9 ≤ 2 := by omega
    have hback : (5 * day + 2) / 153 - 9 + 9 = (5 * day + 2) / 153 := by omega
    simp only [if_neg h, if_pos hearly, Nat.add_sub_cancel, hback]
    omega

lemma yearDays_eq {century four year : ℕ} (hfour : four ≤ 24) (hyear : year ≤ 3) :
    yearDays (century * 100 + (four * 4 + year)) = century * 36524 + four * 1461 + year * 365 := by
  unfold yearDays
  omega

lemma toDays_ofDays (days : ℕ) : (Date.ofDays days).toDays = days := by
  have hera : (days + epoch) % 146097 < 146097 := Nat.mod_lt _ (by decide)
  have hsum := Nat.div_add_mod' (days + epoch) 146097
  simp only [Date.ofDays]
  generalize (days + epoch) % 146097 = ofEra at *
  generalize (days + epoch) / 146097 = era at *
  generalize hcentury : min (ofEra / 36524) 3 = century
  generalize hofCentury : ofEra - century * 36524 = ofCentury
  generalize hyear : min (ofCentury % 1461 / 365) 3 = year
  have hthree : century ≤ 3 ∧ year ≤ 3 := by omega
  have hfour : ofCentury / 1461 ≤ 24 := by omega
  rw [toDays_ofYearDay (by omega)]
  have hofYear : (era * 400 + (century * 100 + (ofCentury / 1461 * 4 + year))) % 400 =
      century * 100 + (ofCentury / 1461 * 4 + year) := by omega
  have hdiv : (era * 400 + (century * 100 + (ofCentury / 1461 * 4 + year))) / 400 = era := by omega
  rw [hofYear, hdiv, yearDays_eq hfour hthree.2]
  omega

lemma toMicros_ofMicros (t : ℕ) : (Civil.ofMicros t).toMicros = t := by
  simp only [Civil.ofMicros, Civil.toMicros, toDays_ofDays]
  omega

example : (Civil.ofMicros 0).iso = "1970-01-01T00:00:00.000000Z".toList := by decide

example : (Civil.ofMicros 951782400000001).iso = "2000-02-29T00:00:00.000001Z".toList := by decide

lemma isDigit_of_mem_padded {width n : ℕ} {x : Char} (hx : x ∈ padded width n) : x.isDigit := by
  unfold padded List.leftpad at hx
  rcases List.mem_append.mp hx with hx | hx
  · obtain rfl := (List.mem_replicate.mp hx).2
    rfl
  · exact Nat.isDigit_of_mem_toDigits (by decide) (by decide) hx

lemma mem_iso {c : Civil} {x : Char} (hx : x ∈ c.iso) : x.isDigit ∨ x ∈ ['-', 'T', ':', '.', 'Z'] := by
  unfold Civil.iso at hx
  simp only [List.mem_append, List.mem_cons, List.not_mem_nil, or_false] at hx ⊢
  by_cases hd : x.isDigit
  · exact Or.inl hd
  · have hpadded : ∀ width n, x ∉ padded width n := fun _ _ h => hd (isDigit_of_mem_padded h)
    simp only [hpadded, false_or, or_false] at hx
    tauto

end Yappy.CivilTime
