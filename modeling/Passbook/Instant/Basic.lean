import Passbook.Text.Digits
/-!
Instants of coordinated universal time, to the nanosecond, with leap seconds: the 61st second of a minute is kept
as a second 59 with a thousand million nanoseconds or more, so it sorts between its neighbours.
-/
namespace Passbook

namespace Calendar

def isLeapYear (y : Int) : Bool := y % 4 == 0 && (y % 100 != 0 || y % 400 == 0)

def daysInMonth (y : Int) (m : Nat) : Nat :=
  if m = 2 then (if isLeapYear y then 29 else 28)
  else if m = 4 ∨ m = 6 ∨ m = 9 ∨ m = 11 then 30
  else 31

/-- Days since the first of January 1970, in the proleptic Gregorian calendar. -/
def dayNumber (y : Int) (m d : Nat) : Int :=
  let y := if m ≤ 2 then y - 1 else y
  let era := y / 400
  let yearOfEra := y % 400
  let dayOfYear : Int := (153 * ((m + 9) % 12 : Nat) + 2) / 5 + d - 1
  era * 146097 + yearOfEra * 365 + yearOfEra / 4 - yearOfEra / 100 + dayOfYear - 719468

def date (day : Int) : Int × Nat × Nat :=
  let z := day + 719468
  let era := z / 146097
  let dayOfEra := z % 146097
  let yearOfEra := (dayOfEra - dayOfEra / 1460 + dayOfEra / 36524 - dayOfEra / 146096) / 365
  let dayOfYear := dayOfEra - (365 * yearOfEra + yearOfEra / 4 - yearOfEra / 100)
  let march := (5 * dayOfYear + 2) / 153
  let m := if march < 10 then march + 3 else march - 9
  (yearOfEra + era * 400 + (if m ≤ 2 then 1 else 0), m.toNat, (dayOfYear - (153 * march + 2) / 5 + 1).toNat)

def minYear : Int := -262143

def maxYear : Int := 262142

end Calendar

namespace Instant

def first : Int := Calendar.dayNumber Calendar.minYear 1 1 * 86400

def last : Int := Calendar.dayNumber Calendar.maxYear 12 31 * 86400 + 86399

def second : Nat := 1000000000

end Instant

structure Instant where
  seconds : Int
  nanos : Nat
  seconds_ge : Instant.first ≤ seconds
  seconds_le : seconds ≤ Instant.last
  nanos_lt : nanos < 2 * Instant.second
  leap_at : Instant.second ≤ nanos → seconds % 60 = 59
  deriving DecidableEq, Repr

namespace Instant

theorem ext {s t : Instant} (h : s.seconds = t.seconds) (hn : s.nanos = t.nanos) : s = t := by
  cases s; cases t; simp_all

def of? (seconds : Int) (nanos : Nat) : Option Instant :=
  if h : (first ≤ seconds ∧ seconds ≤ last) ∧ nanos < 2 * second ∧ (second ≤ nanos → seconds % 60 = 59) then
    some ⟨seconds, nanos, h.1.1, h.1.2, h.2.1, h.2.2⟩
  else none

theorem of?_self (t : Instant) : of? t.seconds t.nanos = some t := by
  exact dif_pos ⟨⟨t.seconds_ge, t.seconds_le⟩, t.nanos_lt, t.leap_at⟩

def epoch : Instant := ⟨0, 0, by decide, by decide, by decide, by decide⟩

instance : Inhabited Instant := ⟨epoch⟩

def compare (s t : Instant) : Ordering := (Ord.compare s.seconds t.seconds).then (Ord.compare s.nanos t.nanos)

def pair (n : Nat) : List Char := Text.zeroPadded 2 (Text.decimal n)

def renderYear (y : Int) : List Char :=
  let sign := if y < 0 then ['-'] else if 9999 < y then ['+'] else []
  sign ++ Text.zeroPadded 4 (Text.decimal y.natAbs)

def renderFraction (n : Nat) : List Char :=
  if n = 0 then []
  else if n % 1000000 = 0 then '.' :: Text.zeroPadded 3 (Text.decimal (n / 1000000))
  else if n % 1000 = 0 then '.' :: Text.zeroPadded 6 (Text.decimal (n / 1000))
  else '.' :: Text.zeroPadded 9 (Text.decimal n)

def render (t : Instant) : List Char :=
  let (y, m, d) := Calendar.date (t.seconds / 86400)
  let clock := (t.seconds % 86400).toNat
  let leap := t.nanos / second
  renderYear y ++ '-' :: pair m ++ '-' :: pair d ++ 'T' :: pair (clock / 3600) ++ ':' :: pair (clock / 60 % 60) ++
    ':' :: pair (clock % 60 + leap) ++ renderFraction (t.nanos % second) ++ ['Z']

def text (t : Instant) : String := String.ofList t.render

instance : ToString Instant := ⟨text⟩

end Instant

end Passbook
