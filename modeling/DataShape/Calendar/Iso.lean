import DataShape.Calendar

/-!
# Reading dates and times

* `Date.take`, `TimeOfDay.take`, `takeOffset` — read the forms `2020-02-29`, `12:30:00.5` and
  `+05:30` off the front of a text.
* `Date.read`, `ZonedTime.read`, `DateTime.read` — read a whole text. Besides the form that is
  written they accept shorter ones: seconds and minutes may be left out, and so may the hyphens or
  the colons.
-/

namespace DataShape

/-- A given character in front. -/
def takeChar (c : Char) : List Char → Option (List Char)
  | [] => none
  | d :: r => if d = c then some r else none

/-! ## Days -/

namespace Date

/-- Reads `YYYY-MM-DD` off the front; the day need not exist. -/
def take (s : List Char) : Option (Date × List Char) := do
  let (year, s) ← takeDigits 4 s
  let s ← takeChar '-' s
  let (month, s) ← takeDigits 2 s
  let s ← takeChar '-' s
  let (day, s) ← takeDigits 2 s
  some (⟨year, month, day⟩, s)

/-- Reads `YYYYMMDD` off the front; the day need not exist. -/
def takeBasic (s : List Char) : Option (Date × List Char) := do
  let (year, s) ← takeDigits 4 s
  let (month, s) ← takeDigits 2 s
  let (day, s) ← takeDigits 2 s
  some (⟨year, month, day⟩, s)

/-- Reads an existing day off the front, in either form. -/
def takeExisting (s : List Char) : Option (Date × List Char) :=
  (take s <|> takeBasic s).filter fun (d, _) => d.isValid

/-- Reads a whole text as an existing day. -/
def read (s : List Char) : Option Date :=
  match takeExisting s with
  | some (d, []) => some d
  | _ => none

end Date

/-! ## Times of day -/

namespace TimeOfDay

/-- The first six digits of a fraction as microseconds; later digits are dropped. -/
def microOf (ds : List Char) : Nat := ofDigits ((ds ++ List.replicate 6 '0').take 6)

/-- Reads an optional fraction after one of the given marks. -/
def takeFraction (marks : List Char) (s : List Char) : Nat × List Char :=
  match s with
  | c :: r =>
    let ds := r.takeWhile isDigit
    if c ∈ marks ∧ ds ≠ [] then (microOf ds, r.dropWhile isDigit) else (0, s)
  | [] => (0, [])

/-- Reads `HH:MM:SS` and an optional fraction off the front. -/
def take (s : List Char) : Option (TimeOfDay × List Char) := do
  let (hour, s) ← takeDigits 2 s
  let s ← takeChar ':' s
  let (minute, s) ← takeDigits 2 s
  let s ← takeChar ':' s
  let (second, s) ← takeDigits 2 s
  let (micro, s) := takeFraction ['.'] s
  let t : TimeOfDay := ⟨hour, minute, second, micro⟩
  if t.isValid then some (t, s) else none

/-- Reads `HH:MM` off the front. -/
def takeMinutes (s : List Char) : Option (TimeOfDay × List Char) := do
  let (hour, s) ← takeDigits 2 s
  let s ← takeChar ':' s
  let (minute, s) ← takeDigits 2 s
  let t : TimeOfDay := ⟨hour, minute, 0, 0⟩
  if t.isValid then some (t, s) else none

/-- Reads further numbers of two digits, at most as many as given and each after `separator`. -/
def takeFields (separator : List Char) : Nat → List Char → List Nat × List Char
  | 0, s => ([], s)
  | n + 1, s =>
    if separator.isPrefixOf s then
      match takeDigits 2 (s.drop separator.length) with
      | some (field, r) =>
        let (fields, r) := takeFields separator n r
        (field :: fields, r)
      | none => ([], s)
    else ([], s)

/-- Reads hours, then minutes and seconds if they are there, and a fraction. A colon after the
hours tells whether there are colons. -/
def takeAny (s : List Char) : Option (TimeOfDay × List Char) := do
  let (hour, s) ← takeDigits 2 s
  let (fields, s) := takeFields (if s.head? = some ':' then [':'] else []) 2 s
  let (micro, s) := takeFraction ['.', ','] s
  let t : TimeOfDay := ⟨hour, fields.headD 0, (fields.drop 1).headD 0, micro⟩
  if t.isValid then some (t, s) else none

end TimeOfDay

/-! ## Offsets -/

/-- Reads an optional offset: `Z`, or a sign and what `span` reads. -/
def takeOffset (span : List Char → Option (TimeOfDay × List Char)) (s : List Char) :
    Option Int × List Char :=
  match s with
  | 'Z' :: r | 'z' :: r => (some 0, r)
  | c :: r =>
    if c = '+' ∨ c = '-' then
      match span r with
      | some (t, r) => (some (if c = '-' then -(t.micros : Int) else t.micros), r)
      | none => (none, s)
    else (none, s)
  | [] => (none, [])

/-- An offset of less than a second is none. -/
def wholeOffset (offset : Int) : Int := if offset.natAbs < 1000000 then 0 else offset

/-! ## Whole texts -/

/-- Reads a whole text as a time of day. -/
def ZonedTime.read (s : List Char) : Option ZonedTime := do
  let (time, s) ← TimeOfDay.takeAny s
  let (offset, s) := takeOffset TimeOfDay.takeAny s
  if s = [] then some ⟨time, offset.map wholeOffset⟩ else none

/-- Reads a whole text as a date-time on an existing day; any character separates the parts, and
a missing time is midnight. -/
def DateTime.read (s : List Char) : Option DateTime := do
  let (date, s) ← Date.takeExisting s
  match s with
  | [] => some (.ofOffset date ⟨0, 0, 0, 0⟩ none)
  | _ :: s => (ZonedTime.read s).map fun t => .ofOffset date t.time t.offset

end DataShape
