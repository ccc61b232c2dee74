import DataShape.Text.Digits

/-!
# Dates and times

Proleptic Gregorian dates, times of day with microseconds, and both together, with an optional time
zone.

* `Date`, `TimeOfDay`, `ZonedTime`, `DateTime` — the types; `Date.isValid` says which triples are
  dates.
* `Region`, `Zone` — time zones: those of a region, where clocks are put back and forward, and fixed
  offsets from universal time.
* `DateTime.isSettled` — whether the offset of a date-time can be told from the clock alone.
* `DateTime.eqv` — date-times without zone are equal as written, and never equal to one with a zone;
  those of one region are equal as written, too, and all others as instants if they are settled.
  `ZonedTime.eqv` compares times with fixed offsets.
* `Date.text`, `ZonedTime.text`, `DateTime.text` — the ISO forms.
-/

namespace DataShape

/-- A day of the proleptic Gregorian calendar. -/
structure Date where
  year : Nat
  month : Nat
  day : Nat
  deriving DecidableEq, Repr

/-- A time of day, in microseconds. -/
structure TimeOfDay where
  hour : Nat
  minute : Nat
  second : Nat
  micro : Nat
  deriving DecidableEq, Repr

/-- A time of day, with the offset from universal time in microseconds when it is known. -/
structure ZonedTime where
  time : TimeOfDay
  offset : Option Int
  deriving DecidableEq, Repr

/-- The time zone of a region, with an identity.  Where the clock shows a time twice, the fold tells
the second one; where it leaves a time out, the fold tells which offset to take.  All other times
are settled by the clock, and what the clock shows then belongs to one instant only. -/
structure Region where
  id : Nat
  key : String
  /-- The offset in microseconds when the clock shows the given microseconds. -/
  offset : (clock : Int) → (fold : Bool) → Int
  clock_unique : ∀ clock clock' : Int, offset clock false = offset clock true →
    offset clock' false = offset clock' true →
    clock - offset clock false = clock' - offset clock' false → clock = clock'

/-- A time zone: a fixed offset from universal time in microseconds, or that of a region. -/
inductive Zone where
  | fixed (offset : Int)
  | region (r : Region)

/-- A day and a time of day, in a time zone when it is known. -/
structure DateTime where
  date : Date
  time : TimeOfDay
  zone : Option Zone
  /-- Whether this is the second time that the clock shows it. -/
  fold : Bool

namespace Date

/-- Whether a year has a 29th of February. -/
def isLeap (year : Nat) : Bool := year % 4 = 0 && (year % 100 ≠ 0 || year % 400 = 0)

/-- The number of days of a month. -/
def daysIn (year month : Nat) : Nat :=
  if month = 2 then if isLeap year then 29 else 28
  else if month = 4 ∨ month = 6 ∨ month = 9 ∨ month = 11 then 30
  else 31

/-- The dates of the years 1 to 9999. -/
def isValid (d : Date) : Bool :=
  1 ≤ d.year && d.year ≤ 9999 && 1 ≤ d.month && d.month ≤ 12 && 1 ≤ d.day &&
    d.day ≤ daysIn d.year d.month

/-- Days before the first of a month, in the same year. -/
def daysBefore (year : Nat) : Nat → Nat
  | 0 => 0
  | month + 1 => if month = 0 then 0 else daysBefore year month + daysIn year month

/-- The number of a day, counted from the first day of the year 1. -/
def ordinal (d : Date) : Nat :=
  let y := d.year - 1
  365 * y + y / 4 - y / 100 + y / 400 + daysBefore d.year d.month + d.day

/-- The form `2020-02-29`. -/
def text (d : Date) : String :=
  padded 4 d.year ++ "-" ++ padded 2 d.month ++ "-" ++ padded 2 d.day

end Date

namespace TimeOfDay

/-- Whether the fields are those of a time of day. -/
def isValid (t : TimeOfDay) : Bool :=
  t.hour < 24 && t.minute < 60 && t.second < 60 && t.micro < 1000000

/-- Seconds since midnight. -/
def seconds (t : TimeOfDay) : Nat := 3600 * t.hour + 60 * t.minute + t.second

/-- Microseconds since midnight. -/
def micros (t : TimeOfDay) : Nat := 1000000 * t.seconds + t.micro

/-- The form `12:30:00`, with six digits of a fraction when there is one. -/
def text (t : TimeOfDay) : String :=
  padded 2 t.hour ++ ":" ++ padded 2 t.minute ++ ":" ++ padded 2 t.second ++
    (if t.micro = 0 then "" else "." ++ padded 6 t.micro)

end TimeOfDay

/-- The form `+05:30` of an offset, with seconds and a fraction when there are some. -/
def offsetText (offset : Int) : String :=
  let n := offset.natAbs / 1000000
  let micro := offset.natAbs % 1000000
  (if offset < 0 then "-" else "+") ++ padded 2 (n / 3600) ++ ":" ++ padded 2 (n / 60 % 60) ++
    (if n % 60 = 0 ∧ micro = 0 then "" else ":" ++ padded 2 (n % 60)) ++
    (if micro = 0 then "" else "." ++ padded 6 micro)

namespace ZonedTime

/-- Seconds since midnight, in universal time when there is an offset; what the offset has beyond
whole seconds is left out. -/
def seconds (t : ZonedTime) : Int := t.time.seconds - (t.offset.getD 0).fdiv 1000000

/-- Equality of times: in universal time with offsets on both sides, as written with none. -/
def eqv (a b : ZonedTime) : Bool :=
  a.offset.isSome == b.offset.isSome && a.seconds == b.seconds && a.time.micro == b.time.micro

theorem eqv_refl (a : ZonedTime) : a.eqv a = true := by simp [eqv]

/-- The form `12:30:00+05:30`. -/
def text (t : ZonedTime) : String := t.time.text ++ (t.offset.map offsetText).getD ""

end ZonedTime

namespace Zone

/-- The offset of a zone when the clock shows the given microseconds. -/
def offset (clock : Int) (fold : Bool) : Zone → Int
  | .fixed offset => offset
  | .region r => r.offset clock fold

/-- Whether two zones are one region. -/
def isSameRegion : Zone → Zone → Bool
  | .region r, .region s => r.id == s.id
  | _, _ => false

end Zone

namespace DateTime

/-- A date-time with a fixed offset, or without a zone. -/
def ofOffset (date : Date) (time : TimeOfDay) (offset : Option Int) : DateTime :=
  ⟨date, time, offset.map .fixed, false⟩

/-- What the clock shows, in microseconds since the first day of the year 1. -/
def clock (t : DateTime) : Int := (86400 * 1000000 * t.date.ordinal + t.time.micros : Nat)

/-- The offset from universal time, when the zone is known. -/
def offset (t : DateTime) : Option Int := t.zone.map (Zone.offset t.clock t.fold)

/-- Whether the offset does not hang on the fold. -/
def isSettled (t : DateTime) : Bool :=
  t.zone.all fun z => z.offset t.clock false == z.offset t.clock true

/-- Microseconds since the first day of the year 1, in universal time when there is a zone. -/
def instant (t : DateTime) : Int := t.clock - t.offset.getD 0

/-- Equality of date-times. -/
def eqv (a b : DateTime) : Bool :=
  match a.zone, b.zone with
  | none, none => a.clock == b.clock
  | some z, some y =>
    if z.isSameRegion y then a.clock == b.clock
    else a.isSettled && b.isSettled && a.instant == b.instant
  | _, _ => false

theorem eqv_refl (a : DateTime) : a.eqv a = true := by
  unfold eqv
  cases hz : a.zone with
  | none => simp
  | some z =>
    cases z with
    | fixed offset => simp [Zone.isSameRegion, isSettled, hz, Zone.offset]
    | region r => simp [Zone.isSameRegion]

/-- The ISO form, with `separator` between the day and the time. -/
def textWith (separator : String) (t : DateTime) : String :=
  t.date.text ++ separator ++ t.time.text ++ (t.offset.map offsetText).getD ""

/-- The form `2020-02-29T12:30:00+05:30`. -/
def text (t : DateTime) : String := t.textWith "T"

end DateTime

end DataShape
