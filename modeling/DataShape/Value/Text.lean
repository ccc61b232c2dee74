import DataShape.Value
import DataShape.Binary64.Decimal
import DataShape.Text.Quoted

/-!
# Text of values

How values are shown inside messages.

* `Value.shown` — a value inside other text: strings in quotation marks, containers in brackets,
  dates as the calls that make them.
* `Value.text` — a value on its own: a string is itself, dates are in ISO form, and a read-only
  mapping looks like any other.
* `Value.isShowable` — whether a value has a text: very long integers have none.
-/

namespace DataShape

/-- `[]`, `()` and the like, with the parts separated by commas. -/
def bracketed (left right : String) (parts : List String) : String :=
  left ++ String.intercalate ", " parts ++ right

namespace TimeOfDay

/-- The fields of a time; seconds and microseconds are left out when they are zero. -/
def fields (t : TimeOfDay) : List String :=
  [natText t.hour, natText t.minute] ++
    (if t.second = 0 ∧ t.micro = 0 then []
     else natText t.second :: (if t.micro = 0 then [] else [natText t.micro]))

end TimeOfDay

namespace Date

/-- The fields of a day. -/
def fields (d : Date) : List String := [natText d.year, natText d.month, natText d.day]

end Date

/-- A span of microseconds: whole days, then the rest of a day. -/
def spanText (micros : Int) : String :=
  let days := micros.fdiv (86400 * 1000000)
  let rest := micros.fmod (86400 * 1000000)
  let seconds := rest.fdiv 1000000
  let micro := rest.fmod 1000000
  bracketed "datetime.timedelta(" ")"
    ((if days = 0 then [] else ["days=" ++ intText days]) ++
     (if seconds = 0 then [] else ["seconds=" ++ intText seconds]) ++
     (if micro = 0 then [] else ["microseconds=" ++ intText micro]))

/-- The time zone of an offset. -/
def zoneText (offset : Int) : String :=
  if offset = 0 then "datetime.timezone.utc"
  else "datetime.timezone(" ++ spanText offset ++ ")"

/-- A time zone as the call that makes it. -/
def Zone.shown : Zone → String
  | .fixed offset => zoneText offset
  | .region r => "zoneinfo.ZoneInfo(key=" ++ quoted r.key ++ ")"

/-- The field of a time zone, when there is one. -/
def zoneField (zone : Option Zone) : List String :=
  (zone.map fun z => "tzinfo=" ++ z.shown).toList

/-- A time as the call that makes it. -/
def ZonedTime.shown (t : ZonedTime) : String :=
  bracketed "datetime.time(" ")" (t.time.fields ++ zoneField (t.offset.map .fixed))

/-- A date-time as the call that makes it. -/
def DateTime.shown (t : DateTime) : String :=
  bracketed "datetime.datetime(" ")"
    (t.date.fields ++ t.time.fields ++ (if t.fold then ["fold=1"] else []) ++ zoneField t.zone)

namespace Value

/-- Whether an integer is short enough to be shown. -/
def integerIsShowable (n : Int) : Bool := n.natAbs < Binary64.power 10 maxIntegerDigits

/-- True and false as they are shown. -/
def boolText (b : Bool) : String := if b then "True" else "False"

/-- The members of a tuple; a single one is followed by a comma. -/
def tupleText : List String → String
  | [x] => "(" ++ x ++ ",)"
  | xs => bracketed "(" ")" xs

/-- The elements of a set. -/
def setText : List String → String
  | [] => "set()"
  | xs => bracketed "\x7b" "\x7d" xs

/-- The label of a kind of library; an empty one is labelled like a full one. -/
def libraryLabel (kind : String) : String := if kind = "empty" then "ko" else kind

mutual

/-- A value inside other text. -/
def shown : Value → String
  | .missing => "MISSING"
  | .null => "None"
  | .boolean b => boolText b
  | .integer n => intText n
  | .float _ x => x.text
  | .string s => quoted s
  | .sequence .list _ items | .callableSequence _ items _ => bracketed "[" "]" (shownItems items)
  | .sequence .tuple _ items => tupleText (shownItems items)
  | .mapping .editable _ entries | .callableMapping _ entries _ =>
    bracketed "\x7b" "\x7d" (shownEntries entries)
  | .mapping .readOnly _ entries =>
    "mappingproxy(" ++ bracketed "\x7b" "\x7d" (shownEntries entries) ++ ")"
  | .date d => bracketed "datetime.date(" ")" d.fields
  | .dateTime t => t.shown
  | .time t => t.shown
  | .bytes bs => quotedBytes bs
  | .set items => setText (shownItems items)
  | .plain _ name => "<" ++ name ++ ">"
  | .function _ _ => "<function>"
  | .observable _ _ | .faulty _ _ => "<observable>"
  | .factory _ name => "<class '" ++ name ++ "'>"
  | .library _ kind => "<lib " ++ libraryLabel kind ++ ">"
  | .prebuilt t o n c source =>
    bracketed "StringPattern(" ")" ["type_name=" ++ shown t, "optional=" ++ shown o,
      "nullable=" ++ shown n, "sub_pattern=" ++ shown c, "source=" ++ quoted source]

/-- The members of a container. -/
def shownItems : List Value → List String
  | [] => []
  | x :: xs => shown x :: shownItems xs

/-- The entries of a mapping. -/
def shownEntries : List (Value × Value) → List String
  | [] => []
  | (k, x) :: rest => (shown k ++ ": " ++ shown x) :: shownEntries rest

end

mutual

/-- Whether a value can be shown: none of the integers in what is shown has too many digits. -/
def isShowable : Value → Bool
  | .integer n => integerIsShowable n
  | .sequence _ _ items | .callableSequence _ items _ | .set items => itemsAreShowable items
  | .mapping _ _ entries | .callableMapping _ entries _ => entriesAreShowable entries
  | .prebuilt t o n c _ => t.isShowable && o.isShowable && n.isShowable && c.isShowable
  | _ => true

/-- Whether all members of a container can be shown. -/
def itemsAreShowable : List Value → Bool
  | [] => true
  | x :: xs => x.isShowable && itemsAreShowable xs

/-- Whether all entries of a mapping can be shown. -/
def entriesAreShowable : List (Value × Value) → Bool
  | [] => true
  | (k, x) :: rest => k.isShowable && x.isShowable && entriesAreShowable rest

end

/-- A value on its own. -/
def text : Value → String
  | .string s => s
  | .mapping .readOnly _ entries => bracketed "\x7b" "\x7d" (shownEntries entries)
  | .date d => d.text
  | .dateTime t => t.textWith " "
  | .time t => t.text
  | v => v.shown

end Value

end DataShape
