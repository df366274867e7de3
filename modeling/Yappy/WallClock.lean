import Yappy.DateArithmetic
import Yappy.MessageMarkdown

/-!
# Wall clocks

`zonedTime` and `parseWhen` of `bots/utility/src/clock.ts`. A zone is given by its offset from UTC; which
zone a name stands for, and what is taken for a duration, are parameters.
-/
namespace Yappy.WallClock

open Dates
open Markdown (CodeUnit Text isSpace preceding slice trim unit)

def msPerMinute : ℤ := 60000

structure Zone where
  /-- In minutes, by the instant. -/
  offset : ℤ → ℤ
  small : ∀ t, -1440 < offset t ∧ offset t < 1440
  /-- Changes are more than 48 hours apart. -/
  apart : ∀ c c', c < c' → offset (c - 1) ≠ offset c → offset (c' - 1) ≠ offset c' → c + 172800000 < c'

def Zone.wall (z : Zone) (t : ℤ) : ℤ := t + z.offset t * msPerMinute

structure Parts where
  year : ℤ
  month : ℤ
  day : ℤ
  hour : ℤ
  minute : ℤ
  deriving DecidableEq

def parts (l : ℤ) : Parts where
  year := yearFromDay (day l)
  month := monthFromDay (day l) + 1
  day := dateFromDay (day l)
  hour := l % msPerDay / 3600000
  minute := l % 3600000 / msPerMinute

/-- `Invalid time value` -/
inductive RangeError
  | mk

/-- Years before 1 are counted backwards from there, and the era is not asked for. -/
def shownYear (y : ℤ) : ℤ := if 0 < y then y else 1 - y

def shown (p : Parts) : Parts := { p with year := shownYear p.year }

def partsIn (z : Zone) (at_ : Option ℤ) : Except RangeError Parts :=
  at_.elim (.error .mk) fun t => .ok (shown (parts (z.wall t)))

def Parts.utc (p : Parts) : Option ℤ :=
  Dates.utc p.year (p.month - 1) p.day (p.hour * 3600000 + p.minute * msPerMinute)

/-- The rounds of the loop; a number that is none is `NaN`, and `new Date` clips the others. -/
def correct (z : Zone) (wanted : Option ℤ) : ℕ → Option ℤ → Except RangeError (Option ℤ)
  | 0, ts => .ok ts
  | rounds + 1, ts => do
    let seen ← partsIn z (ts.bind timeClip)
    match wanted.bind fun w => seen.utc.map (w - ·) with
    | none => correct z wanted rounds none
    | some drift => if drift = 0 then .ok ts else correct z wanted rounds (ts.map (· + drift))

def zoned (z : Zone) (wanted : Option ℤ) : Except RangeError (Option ℤ) :=
  (correct z wanted 2 wanted).map (·.bind timeClip)

def zonedTime (z : Zone) (y mo d h mi : ℤ) : Except RangeError (Option ℤ) :=
  zoned z (Parts.utc ⟨y, mo, d, h, mi⟩)

/-! ## Expressions -/

section Text

def isDigit (u : CodeUnit) : Bool := 48 ≤ u && u ≤ 57

/-- `[A-Za-z_]` -/
def isLetter (u : CodeUnit) : Bool := (65 ≤ u && u ≤ 90) || u == 95 || (97 ≤ u && u ≤ 122)

/-- `\b` -/
def boundary (s : Text) (i : ℕ) : Bool :=
  let isWord u := isDigit u || isLetter u
  (preceding s i).any isWord != s[i]?.any isWord

def toLowerCase (s : Text) : Text := s.map fun u => if 65 ≤ u && u ≤ 90 then u + 32 else u

/-- `/^word/i` -/
def opens (word : List Char) (s : Text) : Bool := (Markdown.text word).isPrefixOf (toLowerCase s)

/-- `/^word\s+/i` -/
def leads (word : List Char) (s : Text) : Bool := opens word s && s[word.length]?.any isSpace

def after (word : List Char) (s : Text) : Text := (s.drop word.length).dropWhile isSpace

/-- `s.replace(/^word\s+/i, '')` -/
def without (word : List Char) (s : Text) : Text := if leads word s then after word s else s

structure Clock where
  hour : ℕ
  minute : Option ℕ
  meridiem : Option Text
  length : ℕ

def Clock.ofDay (clock : Clock) : ℕ :=
  if clock.meridiem = some (Markdown.text ['p', 'm']) ∧ clock.hour < 12 then clock.hour + 12
  else if clock.meridiem = some (Markdown.text ['a', 'm']) ∧ clock.hour = 12 then 0
  else clock.hour

def number (digits : Text) : ℕ := digits.foldl (fun n u => n * 10 + (u.toNat - 48)) 0

/-- The ways to match `CLOCK_RE`, those that are tried first before the others. -/
def clockMatches (s : Text) : List Clock :=
  let digits i j := (slice s i j).length = j - i ∧ (slice s i j).all isDigit
  ([2, 1].filter fun d => digits 0 d).flatMap fun d =>
    ((if s[d]? = some (unit ':') ∧ digits (d + 1) (d + 3) then [d + 3] else []) ++ [d]).flatMap fun m =>
      (List.range' m (((s.drop m).takeWhile isSpace).length + 1)).reverse.flatMap fun i =>
        let meridiem := slice (toLowerCase s) i (i + 2)
        (((if meridiem ∈ [Markdown.text ['a', 'm'], Markdown.text ['p', 'm']] then [i + 2] else []) ++
          [i]).filter (boundary s)).map fun j =>
          ⟨number (slice s 0 d), if m = d then none else some (number (slice s (d + 1) m)),
            if j = i then none else some meridiem, j⟩

/-- `/^([A-Za-z_]+(?:\/[A-Za-z_]+)?)\b/`, of which no shorter run ends at a boundary. -/
def zoneWord (s : Text) : Option Text :=
  let first := s.takeWhile isLetter
  let second := (s.drop (first.length + 1)).takeWhile isLetter
  let both := if first ≠ [] ∧ s[first.length]? = some (unit '/') ∧ second ≠ [] then
    first.length + 1 + second.length else 0
  ([both, first.length].find? fun n => 0 < n && boundary s n).map s.take

/-- What is returned, but for how it is said back. -/
structure Understood where
  at_ : ℤ
  rest : Text

inductive Expression
  | duration (u : Understood)
  | clock (tomorrow : Bool) (hour minute : ℕ) (target : Zone) (rest : Text)

/-- `rest.replace(/^(to|that)\s+/i, '').trim()` -/
def reminder (rest : Text) : Text :=
  trim (if leads "to".toList rest then after "to".toList rest else without "that".toList rest)

variable (duration : Text → ℤ → Option Understood) (resolveZone : Text → Option Zone)

def readClock (tomorrow : Bool) (text : Text) (zone : Zone) : Option Expression :=
  (clockMatches text).head?.bind fun clock =>
    if clock.hour > 23 ∨ clock.minute.getD 0 > 59 ∨ clock.meridiem.isNone ∧ clock.minute.isNone then none
    else
      let rest := trim (text.drop clock.length)
      let named := (zoneWord rest).bind fun word =>
        (resolveZone word).map fun target => (target, trim (rest.drop word.length))
      let (target, rest) := named.getD (zone, rest)
      some (.clock tomorrow clock.ofDay (clock.minute.getD 0) target (reminder rest))

def read (input : Text) (zone : Zone) (now : ℤ) : Option Expression :=
  if trim input = [] then none
  else
    let text := without "in".toList (trim input)
    let named word := opens word text && boundary text word.length
    let tomorrow := named "tomorrow".toList
    let text := if tomorrow then after "tomorrow".toList text else text
    let text := if opens "tonight".toList text && boundary text 7 then after "tonight".toList text else text
    let duration := if leads "at".toList text || tomorrow then none else duration text now
    (duration.map .duration).or (readClock resolveZone tomorrow (without "at".toList text) zone)

def land (target : Zone) (tomorrow : Bool) (hour minute : ℕ) (now : ℤ) : Except RangeError (Option ℤ) := do
  let here ← partsIn target (some now)
  let at_ ← zonedTime target here.year here.month here.day hour minute
  if tomorrow || at_.any (· ≤ now) then zonedTime target here.year here.month (here.day + 1) hour minute
  else return at_

end Text

/-! ## Two rounds -/

section Rounds
variable {z : Zone} {l r s t v : ℤ}

def guess (z : Zone) (l : ℤ) : ℤ := l - z.offset l * msPerMinute

def last (z : Zone) (l : ℤ) : ℤ := l - z.offset (guess z l) * msPerMinute

end Rounds

/-! ## Where the clock is read right -/

section Reading
variable {z : Zone} {l a b w at_ v : ℤ}

/-- The clock shows it and `Date.UTC` takes it for what it is. -/
def Plain (r : ℤ) : Prop := 100 ≤ yearFromDay (day r) ∧ r ≤ maxTime

def seen (z : Zone) (t : ℤ) : Option ℤ := (shown (parts (z.wall t))).utc

end Reading

section Zoned
variable {z : Zone} {l at_ : ℤ}

/-- The local time is taken as it is, and so are the two times that the clock shows at the guesses; and the
guesses are instants. -/
structure Good (z : Zone) (l : ℤ) : Prop where
  plain : Plain l ∧ Plain (z.wall l) ∧ Plain (z.wall (guess z l))
  valid : guess z l ≤ maxTime ∧ last z l ≤ maxTime
  /-- The minute occurs from its beginning. -/
  begins : ∃ t, z.wall t = l

end Zoned

/-! ## Today or tomorrow -/

section Landing
variable {z : Zone} {now l t : ℤ}

/-- The minute occurs, and no moment of it twice. -/
def Once (z : Zone) (l : ℤ) : Prop :=
  (∃ t, z.wall t / msPerMinute = l / msPerMinute) ∧
    ∀ s t, z.wall s / msPerMinute = l / msPerMinute → z.wall s = z.wall t → s = t

end Landing

namespace Sample

def utc : Zone where
  offset _ := 0
  small _ := by decide
  apart _ _ _ h := absurd rfl h

end Sample

end Yappy.WallClock
