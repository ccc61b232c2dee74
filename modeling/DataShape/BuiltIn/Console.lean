import DataShape.BuiltIn.CellWidth
import DataShape.Text.Words

/-!
# Console text

Messages are printed in colour, by markup: `[red]` and `[/red]` around a text.

* `Console.escape` — a text in which what looks like markup is marked by backslashes.
* `Console.render` — a marked-up text without its markup.
* `Console.display` — a text as a console shows it: without control characters that move the
  cursor, and with tabulators as spaces.
-/

namespace DataShape

namespace Console

/-! ## Markup -/

/-- The inside of a tag up to its closing bracket, and the rest. -/
def tagBody : List Char → Option (List Char × List Char)
  | [] => none
  | c :: r =>
    if c = ']' then some ([], r)
    else if c = '[' then none
    else (tagBody r).map fun (cs, rest) => (c :: cs, rest)

/-- Whether a tag can start with a character. -/
def startsTag (c : Char) : Bool := ('a' ≤ c && c ≤ 'z') || c == '#' || c == '/' || c == '@'

/-- A tag in front: its text with the brackets, and the rest. -/
def tag? : List Char → Option (List Char × List Char)
  | '[' :: c :: r =>
    if startsTag c then (tagBody r).map fun (cs, rest) => ('[' :: c :: (cs ++ [']']), rest)
    else none
  | _ => none

/-- A part of a text: a character, or a tag after some backslashes. -/
inductive Piece where
  | char (c : Char)
  | tag (backslashes : Nat) (text : List Char)
  deriving DecidableEq, Repr

/-- Splits a text into pieces. Backslashes belong to a tag that they stand before. -/
def pieces : Nat → List Char → List Piece
  | 0, _ => []
  | fuel + 1, s =>
    match s with
    | [] => []
    | c :: r =>
      let run := s.takeWhile (· == '\\')
      match tag? (s.drop run.length) with
      | some (text, rest) => .tag run.length text :: pieces fuel rest
      | none =>
        if c = '\\' then run.map .char ++ pieces fuel (s.drop run.length)
        else .char c :: pieces fuel r

/-- Backslashes. -/
def backslashes (n : Nat) : List Char := List.replicate n '\\'

/-- Marks what looks like a tag: the backslashes before it are doubled and one is added. -/
def escapePiece : Piece → List Char
  | .char c => [c]
  | .tag n text => backslashes (2 * n + 1) ++ text

/-- A single backslash at the end is doubled, so that it does not mark what follows. -/
def guardEnd (s : List Char) : List Char :=
  if (s.reverse.takeWhile (· == '\\')).length = 1 then s ++ ['\\'] else s

/-- A text in which what looks like markup is marked by backslashes. -/
def escape (s : List Char) : List Char := guardEnd ((pieces (s.length + 1) s).flatMap escapePiece)

/-- A backslash before an opening bracket marks it, and is left out. -/
def unmark : List Char → List Char
  | '\\' :: '[' :: r => '[' :: unmark r
  | c :: r => c :: unmark r
  | [] => []

/-- The characters in front, up to the first tag. -/
def plainRun : List Piece → List Char × List Piece
  | .char c :: ps => (c :: (plainRun ps).1, (plainRun ps).2)
  | ps => ([], ps)

/-- What a tag shows: half of the backslashes before it, and itself when their number is odd. -/
def shownTag (n : Nat) (text : List Char) : List Char :=
  backslashes (n / 2) ++ (if n % 2 = 1 then text else [])

/-- Pieces without markup. -/
def renderPieces : Nat → List Piece → List Char
  | 0, _ => []
  | fuel + 1, ps =>
    match plainRun ps with
    | (cs, .tag n text :: rest) => unmark cs ++ shownTag n text ++ renderPieces fuel rest
    | (cs, _) => unmark cs

/-- A marked-up text without its markup. -/
def render (s : List Char) : List Char :=
  let ps := pieces (s.length + 1) s
  renderPieces (ps.length + 1) ps

/-! ## Display -/

/-- Control characters that move the cursor or ring: they are not shown. -/
def isSilent (c : Char) : Bool :=
  c == '\x07' || c == '\x08' || c == '\x0b' || c == '\x0c' || c == '\r'

/-- The distance of tabulator stops. -/
def tabWidth : Nat := 8

/-- A text before a tabulator, which is at least one space and goes on to the next stop. -/
def padToStop (s : List Char) : List Char :=
  let width := cellWidth (s ++ [' '])
  s ++ ' ' :: List.replicate ((tabWidth - width % tabWidth) % tabWidth) ' '

/-- A line whose parts are separated by tabulators. Each part starts at a stop. -/
def alignParts : List (List Char) → List Char
  | [] => []
  | [p] => p
  | p :: q :: ps => padToStop p ++ alignParts (q :: ps)

/-- Writes spaces for the tabulators of a text, line by line. -/
def expandTabs (s : List Char) : List Char :=
  Text.joinWith '\n' ((Text.splitAt '\n' s).map fun l => alignParts (Text.splitAt '\t' l))

/-- A text as a console shows it. -/
def display (s : List Char) : List Char := expandTabs (s.filter fun c => !isSilent c)

end Console

end DataShape
