import DataShape.Document
import DataShape.Binary64.Decimal

/-!
# JSON documents

* `Json.parse` — the document that a text spells, or the first fault with its place.
* `Json.Fault` — what is wrong and the rest of the text from there on.
* `Json.position`, `Json.message` — the place in characters, lines and columns.

Besides the standard form the names `NaN`, `Infinity` and `-Infinity` are numbers. A number is the
longest text that is one; what follows is read on its own.
-/

namespace DataShape

namespace Json

/-- Why a text is refused. -/
inductive Fault where
  /-- What is wrong, with the rest of the text where it is. -/
  | malformed (what : String) (rest : List Char)
  /-- An integer has too many digits. -/
  | oversized
  deriving DecidableEq, Repr

/-- The result of reading something off the front of a text. -/
abbrev Reading (α : Type) := Except Fault (α × List Char)

/-- White space between tokens. -/
def isSpace (c : Char) : Bool := c == ' ' || c == '\t' || c == '\n' || c == '\r'

/-- Leaves out white space. -/
def skip (s : List Char) : List Char := s.dropWhile isSpace

/-! ## Numbers -/

/-- Splits off the digits in front. -/
def digits (s : List Char) : List Char × List Char := (s.takeWhile isDigit, s.dropWhile isDigit)

/-- Splits off a point with digits, if both are there. -/
def fraction (s : List Char) : List Char × List Char :=
  match s with
  | '.' :: r => if (digits r).1 = [] then ([], s) else ('.' :: (digits r).1, (digits r).2)
  | _ => ([], s)

/-- Splits off the sign of an exponent. -/
def exponentSign (s : List Char) : List Char × List Char :=
  match s with
  | '+' :: r => (['+'], r)
  | '-' :: r => (['-'], r)
  | _ => ([], s)

/-- Splits off an exponent, if it is complete. -/
def exponent (s : List Char) : List Char × List Char :=
  match s with
  | c :: r =>
    if c = 'e' ∨ c = 'E' then
      let (sign, t) := exponentSign r
      if (digits t).1 = [] then ([], s) else (c :: sign ++ (digits t).1, (digits t).2)
    else ([], s)
  | [] => ([], [])

/-- Splits off the digits of an integer: a zero, or digits that do not start with one. -/
def whole (s : List Char) : List Char × List Char :=
  match s with
  | '0' :: r => (['0'], r)
  | _ => digits s

/-- Reads a number. -/
def number (s : List Char) : Reading Document :=
  let (minus, t) := match s with
    | '-' :: r => (['-'], r)
    | _ => ([], s)
  let (ds, t) := whole t
  if ds = [] then .error (.malformed "Expecting value" s)
  else
    let (frac, t) := fraction t
    let (exp, t) := exponent t
    if frac = [] ∧ exp = [] then
      if maxIntegerDigits < ds.length then .error .oversized
      else .ok (.integer (if minus = [] then ofDigits ds else -(ofDigits ds : Int)), t)
    else .ok (.float (Numeral.read (minus ++ ds ++ frac ++ exp)).toBinary64, t)

/-! ## Strings -/

/-- The character of a one-letter escape. -/
def escape? : Char → Option Char
  | '"' => some '"'
  | '\\' => some '\\'
  | '/' => some '/'
  | 'b' => some '\x08'
  | 'f' => some '\x0c'
  | 'n' => some '\n'
  | 'r' => some '\r'
  | 't' => some '\t'
  | _ => none

/-- Adds a unit to what has been read. -/
def push (unit : Nat) : Reading (List Nat) → Reading (List Nat)
  | .ok (units, rest) => .ok (unit :: units, rest)
  | .error f => .error f

/-- Reads the inside of a string up to its closing mark, as code points and the two halves of
those that are escaped in halves. `opening` is the text from the opening mark on. -/
def units (opening : List Char) : List Char → Reading (List Nat)
  | [] => .error (.malformed "Unterminated string starting at" opening)
  | '"' :: r => .ok ([], r)
  | '\\' :: 'u' :: a :: b :: c :: d :: e :: r =>
    match ofHex? [a, b, c, d] with
    | some n => push n (units opening (e :: r))
    | none => .error (.malformed "Invalid \\uXXXX escape" ('u' :: a :: b :: c :: d :: e :: r))
  | '\\' :: 'u' :: r => .error (.malformed "Invalid \\uXXXX escape" ('u' :: r))
  | ['\\'] => .error (.malformed "Unterminated string starting at" opening)
  | '\\' :: x :: r =>
    match escape? x with
    | some c => push c.toNat (units opening r)
    | none => .error (.malformed "Invalid \\escape" ('\\' :: x :: r))
  | c :: r =>
    if c < ' ' then .error (.malformed "Invalid control character at" (c :: r))
    else push c.toNat (units opening r)

/-- Joins halves to characters; a half alone is replaced. -/
def join : List Nat → List Char
  | [] => []
  | [n] => [if 0xd800 ≤ n ∧ n ≤ 0xdfff then '\ufffd' else Char.ofNat n]
  | n :: m :: r =>
    if 0xd800 ≤ n ∧ n ≤ 0xdbff ∧ 0xdc00 ≤ m ∧ m ≤ 0xdfff then
      Char.ofNat (0x10000 + (n - 0xd800) * 0x400 + (m - 0xdc00)) :: join r
    else (if 0xd800 ≤ n ∧ n ≤ 0xdfff then '\ufffd' else Char.ofNat n) :: join (m :: r)

/-- Reads a string whose opening mark has been seen; `opening` starts with it. -/
def string (opening : List Char) : Reading String :=
  match units opening (opening.drop 1) with
  | .ok (us, rest) => .ok (String.ofList (join us), rest)
  | .error f => .error f

/-! ## Values -/

/-- The rest of a text after a given beginning. -/
def after? (word : String) (s : List Char) : Option (List Char) :=
  if word.toList.isPrefixOf s then some (s.drop word.length) else none

/-- The constants of the format. -/
def constants : List (String × Document) :=
  [("null", .null), ("true", .boolean true), ("false", .boolean false), ("NaN", .float .nan),
    ("Infinity", .float (.infinite false)), ("-Infinity", .float (.infinite true))]

/-- Reads a constant. -/
def constant? (s : List Char) : Option (Document × List Char) :=
  constants.findSome? fun (word, d) => (after? word s).map fun rest => (d, rest)

/-- Expects a character after white space. -/
def expect (c : Char) (what : String) (s : List Char) : Except Fault (List Char) :=
  match skip s with
  | d :: r => if d = c then .ok r else .error (.malformed what (d :: r))
  | [] => .error (.malformed what [])

mutual

/-- Reads a value; each bracket inside it takes two of the `fuel`. -/
def value : Nat → List Char → Except Fault (Document × List Char)
  | 0, s => .error (.malformed "Expecting value" s)
  | fuel + 1, s =>
    match s with
    | '"' :: _ => (string s).map fun (x, rest) => (.string x, rest)
    | '{' :: r =>
      match skip r with
      | '}' :: rest => .ok (.table [], rest)
      | t => (members fuel t).map fun (es, rest) => (.table (Document.distinct es), rest)
    | '[' :: r =>
      match skip r with
      | ']' :: rest => .ok (.array [], rest)
      | t => (elements fuel t).map fun (ds, rest) => (.array ds, rest)
    | _ =>
      match constant? s with
      | some found => .ok found
      | none => number s

/-- Reads the members of an object up to its closing bracket; there is at least one. -/
def members : Nat → List Char → Except Fault (List (String × Document) × List Char)
  | 0, s => .error (.malformed "Expecting value" s)
  | fuel + 1, s =>
    match s with
    | '"' :: _ => do
      let (key, s) ← string s
      let s ← expect ':' "Expecting ':' delimiter" s
      let (d, s) ← value fuel (skip s)
      match skip s with
      | '}' :: rest => return ([(key, d)], rest)
      | ',' :: rest =>
        let (es, rest) ← members fuel (skip rest)
        return ((key, d) :: es, rest)
      | t => .error (.malformed "Expecting ',' delimiter" t)
    | _ => .error (.malformed "Expecting property name enclosed in double quotes" s)

/-- Reads the elements of an array up to its closing bracket; there is at least one. -/
def elements : Nat → List Char → Except Fault (List Document × List Char)
  | 0, s => .error (.malformed "Expecting value" s)
  | fuel + 1, s => do
    let (d, s) ← value fuel s
    match skip s with
    | ']' :: rest => return ([d], rest)
    | ',' :: rest =>
      let (ds, rest) ← elements fuel (skip rest)
      return (d :: ds, rest)
    | t => .error (.malformed "Expecting ',' delimiter" t)

end

/-- The document that a text spells. -/
def parseChars (s : List Char) : Except Fault Document :=
  match s with
  | '\ufeff' :: _ => .error (.malformed "Unexpected UTF-8 BOM (decode using utf-8-sig)" s)
  | _ => do
    let (d, rest) ← value (2 * s.length + 2) (skip s)
    match skip rest with
    | [] => return d
    | t => .error (.malformed "Extra data" t)

/-- The document that a text spells. -/
def parse (text : String) : Except Fault Document := parseChars text.toList

/-! ## Places -/

/-- Line and column of the place after the given text, both counted from one. -/
def position (before : List Char) : Nat × Nat :=
  (before.count '\n' + 1, (before.reverse.takeWhile (· != '\n')).length + 1)

/-- The message of a fault in a text, which ends with the rest given in the fault. -/
def message (text : String) (what : String) (rest : List Char) : String :=
  let offset := text.length - rest.length
  let (line, column) := position (text.toList.take offset)
  what ++ ": line " ++ natText line ++ " column " ++ natText column ++
    " (char " ++ natText offset ++ ")"

end Json

end DataShape
