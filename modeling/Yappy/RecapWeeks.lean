import Yappy.DateArithmetic

/-!
# Recap weeks

The label of a week in the nonce of a recap, of `apps/worker/src/jobs/pets.ts`. A job that is run again posts
nothing again, and the recap of the next week is not taken for that of this one.
-/
namespace Yappy.Recaps

open Dates

def week (t : ℤ) : ℤ := (day t + 3) / 7

def firstCentury (d : ℤ) : Prop := 0 ≤ yearFromDay d ∧ yearFromDay d ≤ 99
def lastCentury (d : ℤ) : Prop := 1900 ≤ yearFromDay d ∧ yearFromDay d ≤ 1999

/-- The day that `Date.UTC` makes of a day's fields. The year 0 has a leap day and the year 1900 has none. -/
def taken (d : ℤ) : ℤ :=
  if -719528 ≤ d ∧ d < -683003 then if d < -719468 then d + 693961 else d + 693960 else d

/-- No day of the week is in a century that `Date.UTC` confuses, and the year of its Thursday has a start. -/
def Clear (a : ℤ) : Prop :=
  (∀ d, (d + 3) / 7 = week a → ¬ firstCentury d ∧ ¬ lastCentury d) ∧ yearFromDay (7 * week a) ≠ -271821

end Yappy.Recaps
