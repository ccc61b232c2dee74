/-!
# Digits

* `isDigit`, `ofDigits`, `takeDigits` — decimal digits and the numbers that they spell.
* `natText`, `intText`, `padded` — decimal text.
* `hexValue?`, `hexPadded` — hexadecimal digits.
-/

namespace DataShape

/-- Whether a character is one of `0` to `9`. -/
def isDigit (c : Char) : Bool := '0' ≤ c && c ≤ '9'

/-- A decimal digit's value. -/
def digitValue (c : Char) : Nat := c.toNat - '0'.toNat

/-- The natural number that decimal digits spell. -/
def ofDigits (cs : List Char) : Nat := cs.foldl (fun n c => 10 * n + digitValue c) 0

/-- Exactly `n` digits in front: their number and the rest. -/
def takeDigits (n : Nat) (s : List Char) : Option (Nat × List Char) :=
  let ds := s.take n
  if ds.length = n ∧ ds.all isDigit then some (ofDigits ds, s.drop n) else none

/-- The decimal digits of a natural number. -/
def natText (n : Nat) : String := String.ofList (Nat.toDigits 10 n)

/-- The most decimal digits that an integer may have where it is read or written in decimal. -/
def maxIntegerDigits : Nat := 4300

/-- The decimal digits of an integer, after a minus sign when it is negative. -/
def intText (n : Int) : String := if n < 0 then "-" ++ natText n.natAbs else natText n.natAbs

/-- Characters with leading zeros up to a width. -/
def padLeft (width : Nat) (ds : List Char) : String :=
  String.ofList (List.replicate (width - ds.length) '0' ++ ds)

/-- A number in decimal with leading zeros up to a width. -/
def padded (width n : Nat) : String := padLeft width (Nat.toDigits 10 n)

/-- A number in lower-case hexadecimal with leading zeros up to a width. -/
def hexPadded (width n : Nat) : String := padLeft width (Nat.toDigits 16 n)

/-- The value of a hexadecimal digit in either case. -/
def hexValue? (c : Char) : Option Nat :=
  if isDigit c then some (digitValue c)
  else if 'a' ≤ c && c ≤ 'f' then some (c.toNat - 'a'.toNat + 10)
  else if 'A' ≤ c && c ≤ 'F' then some (c.toNat - 'A'.toNat + 10)
  else none

/-- The number that hexadecimal digits spell, if all are digits. -/
def ofHex? (cs : List Char) : Option Nat :=
  cs.foldl (fun n c => n.bind fun n => (hexValue? c).map (16 * n + ·)) (some 0)

end DataShape
