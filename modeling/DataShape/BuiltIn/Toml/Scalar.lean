import DataShape.Calendar.Iso
import DataShape.Document
import DataShape.Binary64.Decimal

/-!
# Keys and scalars of TOML documents

Readers of the parts of a line: each takes a text and returns what it read and the rest.

* `Toml.comment`, `Toml.skipBlank`, `Toml.skipLines` — what separates the parts.
* `Toml.basicString`, `Toml.literalString`, `Toml.multilineString` — strings.
* `Toml.key` — a dotted key.
* `Toml.dateOrTime?`, `Toml.number?`, `Toml.special?` — dates, times and numbers.
-/

namespace DataShape

namespace Toml

/-- Why a text is refused. -/
inductive Fault where
  | malformed
  /-- An integer has too many digits. -/
  | oversized
  deriving DecidableEq, Repr

/-- Control characters, the tabulator apart. -/
def isControl (c : Char) : Bool := (c < ' ' && c != '\t') || c == '\x7f'

/-- Spaces and tabulators. -/
def isBlank (c : Char) : Bool := c == ' ' || c == '\t'

/-- Leaves out spaces and tabulators. -/
def skipBlank (s : List Char) : List Char := s.dropWhile isBlank

/-- Leaves out a comment, up to the end of the line. -/
def comment (s : List Char) : Except Fault (List Char) :=
  match s with
  | '#' :: r =>
    if (r.takeWhile (· != '\n')).any isControl then .error .malformed
    else .ok (r.dropWhile (· != '\n'))
  | _ => .ok s

/-- Leaves out spaces, line ends and comments. -/
def skipLinesFrom : Nat → List Char → Except Fault (List Char)
  | 0, s => .ok s
  | fuel + 1, s =>
    match s.dropWhile fun c => isBlank c || c == '\n' with
    | '#' :: r => do skipLinesFrom fuel (← comment ('#' :: r))
    | t => .ok t

/-- Leaves out spaces, line ends and comments. -/
def skipLines (s : List Char) : Except Fault (List Char) := skipLinesFrom (s.length + 1) s

/-! ## Strings -/

/-- The character of a one-letter escape. -/
def escape? : Char → Option Char
  | 'b' => some '\x08'
  | 't' => some '\t'
  | 'n' => some '\n'
  | 'f' => some '\x0c'
  | 'r' => some '\r'
  | '"' => some '"'
  | '\\' => some '\\'
  | _ => none

/-- The character with a hexadecimal number, which must not be half of another one. -/
def scalar? (hex : List Char) : Option Char :=
  (ofHex? hex).bind fun n => if h : n.isValidChar then some (Char.ofNatAux n h) else none

/-- Reads an escape by number. -/
def numbered (width : Nat) (s : List Char) : Except Fault (Char × List Char) :=
  let hex := s.take width
  if hex.length ≠ width then .error .malformed
  else match scalar? hex with
    | some c => .ok (c, s.drop width)
    | none => .error .malformed

/-- Leaves out the line end after a backslash and all blanks and line ends that follow. Only blanks
may stand before the line end, unless the text ends there. -/
def continueLine (s : List Char) : Except Fault (List Char) :=
  match skipBlank s with
  | [] => .ok []
  | '\n' :: r => .ok (r.dropWhile fun c => isBlank c || c == '\n')
  | _ => .error .malformed

/-- Reads the rest of a basic string. -/
def basicFrom (multiline : Bool) : Nat → List Char → Except Fault (List Char × List Char)
  | 0, _ => .error .malformed
  | fuel + 1, s =>
    match s with
    | [] => .error .malformed
    | '"' :: r =>
      if !multiline then .ok ([], r)
      else match r with
        | '"' :: '"' :: rest => .ok ([], rest)
        | _ => (basicFrom multiline fuel r).map fun (cs, rest) => ('"' :: cs, rest)
    | '\\' :: 'u' :: r => do
      let (c, r) ← numbered 4 r
      (basicFrom multiline fuel r).map fun (cs, rest) => (c :: cs, rest)
    | '\\' :: 'U' :: r => do
      let (c, r) ← numbered 8 r
      (basicFrom multiline fuel r).map fun (cs, rest) => (c :: cs, rest)
    | '\\' :: x :: r =>
      match escape? x with
      | some c => (basicFrom multiline fuel r).map fun (cs, rest) => (c :: cs, rest)
      | none =>
        if multiline && (isBlank x || x == '\n') then do
          basicFrom multiline fuel (← continueLine (x :: r))
        else .error .malformed
    | c :: r =>
      if c = '\\' ∨ (isControl c && !(multiline && c == '\n')) then .error .malformed
      else (basicFrom multiline fuel r).map fun (cs, rest) => (c :: cs, rest)

/-- Reads a basic string after its opening mark. -/
def basicString (s : List Char) : Except Fault (String × List Char) :=
  (basicFrom false (s.length + 1) s).map fun (cs, rest) => (String.ofList cs, rest)

/-- Reads a literal string after its opening mark. -/
def literalString (s : List Char) : Except Fault (String × List Char) :=
  let cs := s.takeWhile (· != '\'')
  match s.dropWhile (· != '\'') with
  | _ :: rest => if cs.any isControl then .error .malformed else .ok (String.ofList cs, rest)
  | [] => .error .malformed

/-- Splits a text at the first run of three single marks. -/
def untilMarks : List Char → Option (List Char × List Char)
  | [] => none
  | '\'' :: '\'' :: '\'' :: rest => some ([], rest)
  | c :: r => (untilMarks r).map fun (cs, rest) => (c :: cs, rest)

/-- Adds up to two marks that stand right after the closing ones. -/
def extraMarks (mark : Char) (cs rest : List Char) : String × List Char :=
  let n := ((rest.take 2).takeWhile (· == mark)).length
  (String.ofList (cs ++ List.replicate n mark), rest.drop n)

/-- A text without a line end in front. -/
def dropLineEnd : List Char → List Char
  | '\n' :: r => r
  | s => s

/-- Reads a string in three marks after the opening ones. -/
def multilineString (mark : Char) (s : List Char) : Except Fault (String × List Char) :=
  let s := dropLineEnd s
  if mark = '"' then
    (basicFrom true (s.length + 1) s).map fun (cs, rest) => extraMarks mark cs rest
  else match untilMarks s with
    | some (cs, rest) =>
      if cs.any fun c => isControl c && c != '\n' then .error .malformed
      else .ok (extraMarks mark cs rest)
    | none => .error .malformed

/-! ## Keys -/

/-- The characters of keys without marks. -/
def isBare (c : Char) : Bool := c.isAlphanum || c == '-' || c == '_'

/-- Reads one part of a key. -/
def keyPart (s : List Char) : Except Fault (String × List Char) :=
  match s with
  | '"' :: r => basicString r
  | '\'' :: r => literalString r
  | _ =>
    let cs := s.takeWhile isBare
    if cs = [] then .error .malformed else .ok (String.ofList cs, s.dropWhile isBare)

/-- Reads a dotted key and the blanks after it. -/
def keyFrom : Nat → List Char → Except Fault (List String × List Char)
  | 0, _ => .error .malformed
  | fuel + 1, s => do
    let (part, r) ← keyPart s
    match skipBlank r with
    | '.' :: t =>
      let (parts, rest) ← keyFrom fuel (skipBlank t)
      return (part :: parts, rest)
    | rest => return ([part], rest)

/-- Reads a dotted key and the blanks after it. -/
def key (s : List Char) : Except Fault (List String × List Char) := keyFrom (s.length + 1) s

/-! ## Dates and numbers -/

/-- Reads the time of day after a date, which a blank or the letter T separates. -/
def timeAfterDate (date : Date) (s : List Char) : Document × List Char :=
  match s with
  | c :: r =>
    if c = 'T' ∨ c = 't' ∨ c = ' ' then
      match TimeOfDay.take r with
      | some (time, r) =>
        let (offset, r) := takeOffset TimeOfDay.takeMinutes r
        (.dateTime (.ofOffset date time offset), r)
      | none => (.date date, s)
    else (.date date, s)
  | [] => (.date date, [])

/-- Reads a date, a date-time or a time of day. A date has to exist. -/
def dateOrTime? (s : List Char) : Option (Except Fault (Document × List Char)) :=
  match Date.take s with
  | some (date, r) => some (if date.isValid then .ok (timeAfterDate date r) else .error .malformed)
  | none => (TimeOfDay.take s).map fun (time, r) => .ok (.time time, r)

/-- Splits off digits; single underscores may stand between them and are left out. -/
def run (ok : Char → Bool) : List Char → List Char × List Char
  | [] => ([], [])
  | '_' :: c :: r =>
    if ok c then
      let (ds, rest) := run ok r
      (c :: ds, rest)
    else ([], '_' :: c :: r)
  | c :: r =>
    if ok c then
      let (ds, rest) := run ok r
      (c :: ds, rest)
    else ([], c :: r)

/-- Splits off digits, the first of which has nothing before it. -/
def digits (ok : Char → Bool) (s : List Char) : List Char × List Char :=
  match s with
  | '_' :: _ => ([], s)
  | _ => run ok s

/-- The base of an integer that starts with a zero and a letter, and its digits. -/
def base? : Char → Option (Nat × (Char → Bool))
  | 'x' => some (16, fun c => (hexValue? c).isSome)
  | 'o' => some (8, fun c => '0' ≤ c && c ≤ '7')
  | 'b' => some (2, fun c => c == '0' || c == '1')
  | _ => none

/-- The number that digits spell in a base. -/
def ofBase (base : Nat) (ds : List Char) : Nat :=
  ds.foldl (fun n c => base * n + (hexValue? c).getD 0) 0

/-- Reads an integer with a base. -/
def based? (s : List Char) : Option (Document × List Char) :=
  match s with
  | '0' :: b :: r => do
    let (base, ok) ← base? b
    let (ds, rest) := digits ok r
    if ds = [] then none else some (.integer (ofBase base ds), rest)
  | _ => none

/-- Splits off a fraction. -/
def fraction (s : List Char) : List Char × List Char :=
  match s with
  | '.' :: r => if (digits isDigit r).1 = [] then ([], s)
    else ('.' :: (digits isDigit r).1, (digits isDigit r).2)
  | _ => ([], s)

/-- Splits off an exponent. -/
def exponent (s : List Char) : List Char × List Char :=
  match s with
  | c :: r =>
    if c = 'e' ∨ c = 'E' then
      let (sign, t) := match r with
        | '+' :: t => (['+'], t)
        | '-' :: t => (['-'], t)
        | _ => ([], r)
      if (digits isDigit t).1 = [] then ([], s)
      else ('e' :: sign ++ (digits isDigit t).1, (digits isDigit t).2)
    else ([], s)
  | [] => ([], [])

/-- Splits off the digits of a decimal integer: a zero, or digits that do not start with one. -/
def whole (s : List Char) : List Char × List Char :=
  match s with
  | '0' :: r => (['0'], r)
  | _ => digits isDigit s

/-- Reads a decimal number. -/
def decimal? (s : List Char) : Option (Except Fault (Document × List Char)) :=
  let (negative, t) := Numeral.sign s
  let (ds, t) := whole t
  if ds = [] then none
  else
    let (frac, t) := fraction t
    let (exp, t) := exponent t
    if frac = [] ∧ exp = [] then
      if maxIntegerDigits < ds.length then some (.error .oversized)
      else some (.ok (.integer (if negative then -(ofDigits ds : Int) else ofDigits ds), t))
    else
      let minus := if negative then ['-'] else []
      some (.ok (.float (Numeral.read (minus ++ ds ++ frac ++ exp)).toBinary64, t))

/-- Reads a number. -/
def number? (s : List Char) : Option (Except Fault (Document × List Char)) :=
  match based? s with
  | some found => some (.ok found)
  | none => decimal? s

/-- Reads an infinity or what is not a number. -/
def special? (s : List Char) : Option (Document × List Char) :=
  let (negative, t) := Numeral.sign s
  match t with
  | 'i' :: 'n' :: 'f' :: r => some (.float (.infinite negative), r)
  | 'n' :: 'a' :: 'n' :: r => some (.float .nan, r)
  | _ => none

end Toml

end DataShape
