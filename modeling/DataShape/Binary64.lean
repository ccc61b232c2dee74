/-!
# Double-precision numbers as exact values

* `Binary64` — a double-precision number: not a number, an infinity, or
  `± significand · 2 ^ exponent`.
* `Binary64.round` — the double nearest to a quotient of natural numbers; a tie goes to the even
  significand, and what is too large is infinite.
* `Binary64.isZero`, `Binary64.eqv`, `Binary64.eqvInt` — the comparisons that the checks need, all
  on exact values, so that an integer and a double are equal only if they are the same number.
-/

namespace DataShape

/-- A double-precision number with its exact value. -/
inductive Binary64 where
  | nan
  | infinite (negative : Bool)
  /-- The number `± significand · 2 ^ exponent`; zero keeps its sign. -/
  | finite (negative : Bool) (significand : Nat) (exponent : Int)
  deriving DecidableEq, Repr

namespace Binary64

/-- Positive or negative zero. -/
def zero (negative : Bool) : Binary64 := .finite negative 0 (-1074)

/-- Zero of either sign. -/
def isZero : Binary64 → Bool
  | .finite _ 0 _ => true
  | _ => false

/-- The significand with its sign. -/
def signed (negative : Bool) (m : Nat) : Int := if negative then -(m : Int) else m

/-- The power `b ^ k`, which is one for all exponents below zero. -/
def power (b : Nat) (k : Int) : Nat := Nat.pow b k.toNat

/-- Whether `a · 2 ^ d = b · 2 ^ e`, decided on the two integers brought to the lower exponent. -/
def sameDyadic (a : Int) (d : Int) (b : Int) (e : Int) : Bool :=
  if d ≤ e then a == b * power 2 (e - d) else a * power 2 (d - e) == b

/-- Numeric equality: the zeros are equal, and what is not a number equals nothing. -/
def eqv : Binary64 → Binary64 → Bool
  | .infinite s, .infinite t => s == t
  | .finite s m d, .finite t n e => sameDyadic (signed s m) d (signed t n) e
  | _, _ => false

/-- Numeric equality with an integer, on exact values. -/
def eqvInt : Binary64 → Int → Bool
  | .finite s m d, n => sameDyadic (signed s m) d n 0
  | _, _ => false

/-! ## Rounding -/

/-- `num / den` rounded to the nearest natural number, a tie to the even one. -/
def divRound (num den : Nat) : Nat :=
  let q := num / den
  let r := num % den
  if 2 * r < den then q
  else if den < 2 * r then q + 1
  else if q % 2 = 0 then q else q + 1

/-- Whether `num / den` is at least `2 ^ k`. -/
def atLeastPow (num den : Nat) (k : Int) : Bool :=
  if 0 ≤ k then den * power 2 k ≤ num else den ≤ num * power 2 (-k)

/-- The greatest `k` with `2 ^ k ≤ num / den`, for positive arguments: the difference of the two
bit lengths or one less. -/
def floorLog (num den : Nat) : Int :=
  let k : Int := (Nat.log2 num : Int) - Nat.log2 den
  if atLeastPow num den k then k else k - 1

/-- `num / den` in units of `2 ^ q`, rounded. -/
def significandAt (num den : Nat) (q : Int) : Nat :=
  if 0 ≤ q then divRound num (den * power 2 q) else divRound (num * power 2 (-q)) den

/-- The largest exponent of a finite double. -/
def maxExponent : Int := 971

/-- The double nearest to `± num / den`. The significand has 53 bits, fewer only at the least
exponent; one that rounds up to 54 bits moves to the next exponent. -/
def round (negative : Bool) (num den : Nat) : Binary64 :=
  if num = 0 then zero negative
  else
    let q := max (-1074) (floorLog num den - 52)
    let m := significandAt num den q
    let (m, q) := if m = power 2 53 then (power 2 52, q + 1) else (m, q)
    if maxExponent < q then .infinite negative else .finite negative m q

end Binary64

end DataShape
