import DataShape.Text.Digits
import DataShape.Text.Printable

/-!
# Quoted text

How strings and bytes are shown inside messages.

* `Quoted.mark` — the quotation mark: a double one for what holds single ones only.
* `quoted` — a string in quotation marks; the mark and the backslash are escaped, and what has no
  printed form is written by its code.
* `quotedBytes` — the same for bytes, of which only the printable ASCII ones are shown.
-/

namespace DataShape

namespace Quoted

/-- Single quotation marks, unless the text holds such a mark and no double one. -/
def mark (s : List Char) : Char := if s.contains '\'' && !s.contains '"' then '"' else '\''

/-- The escape of a character by its code, in the shortest of the three widths. -/
def byCode (c : Char) : String :=
  let n := c.toNat
  if n ≤ 0xff then "\\x" ++ hexPadded 2 n
  else if n ≤ 0xffff then "\\u" ++ hexPadded 4 n
  else "\\U" ++ hexPadded 8 n

/-- A character inside quotation marks, with a test for what is shown as it is. -/
def char (shown : Char → Bool) (q c : Char) : String :=
  if c = q ∨ c = '\\' then String.ofList ['\\', c]
  else if c = '\n' then "\\n"
  else if c = '\r' then "\\r"
  else if c = '\t' then "\\t"
  else if shown c then String.singleton c
  else byCode c

/-- A text between quotation marks. -/
def between (shown : Char → Bool) (s : List Char) : String :=
  let q := mark s
  String.singleton q ++ String.join (s.map (char shown q)) ++ String.singleton q

end Quoted

/-- A string in quotation marks. -/
def quoted (s : String) : String := Quoted.between isPrintable s.toList

/-- Bytes in quotation marks, after a `b`. -/
def quotedBytes (bs : List UInt8) : String :=
  "b" ++ Quoted.between (fun c => ' ' ≤ c && c < '\x7f') (bs.map fun b => Char.ofNat b.toNat)

end DataShape
