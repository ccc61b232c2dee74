import DataShape.Binary64
import DataShape.Text.Digits

/-!
# Decimal numerals and doubles

Reading and writing doubles in decimal, in exact arithmetic.

* `Numeral` — a decimal numeral `± digits · 10 ^ exponent`.
* `Numeral.read` — the numeral that a text spells, with an optional fraction and exponent.
* `Numeral.toBinary64` — the nearest double.
* `Binary64.shortest` — the fewest decimal digits that read back, the nearest of those.
* `Binary64.text` — the written form: positional from 0.0001 up to 16 integer digits, with an
  exponent of at least two digits elsewhere.
-/

namespace DataShape

/-- The number `± digits · 10 ^ exponent`. -/
structure Numeral where
  negative : Bool
  digits : Nat
  exponent : Int
  deriving DecidableEq, Repr

namespace Numeral

/-- Splits off an optional sign. -/
def sign : List Char → Bool × List Char
  | '-' :: cs => (true, cs)
  | '+' :: cs => (false, cs)
  | cs => (false, cs)

/-- The numeral spelled by an optional sign, digits, an optional fraction and an optional
exponent; separators between digits must have been removed. -/
def read (s : List Char) : Numeral :=
  let (negative, s) := sign s
  let whole := s.takeWhile isDigit
  let (fraction, s) := match s.dropWhile isDigit with
    | '.' :: r => (r.takeWhile isDigit, r.dropWhile isDigit)
    | r => ([], r)
  let exponent : Int := match s with
    | 'e' :: r | 'E' :: r =>
      let (down, ds) := sign r
      if down then -(ofDigits ds : Int) else ofDigits ds
    | _ => 0
  ⟨negative, ofDigits (whole ++ fraction), exponent - fraction.length⟩

/-- The double nearest to a numeral. Powers of ten beyond the range of doubles on either side
are settled by counting digits. -/
def toBinary64 (n : Numeral) : Binary64 :=
  let size : Int := ((Nat.toDigits 10 n.digits).length : Int) + n.exponent
  if n.digits = 0 || size < -330 then .zero n.negative
  else if 330 < size then .infinite n.negative
  else if 0 ≤ n.exponent then .round n.negative (n.digits * Binary64.power 10 n.exponent) 1
  else .round n.negative n.digits (Binary64.power 10 (-n.exponent))

end Numeral

namespace Binary64

/-! ## Shortest digits -/

/-- The open or closed interval of the reals that round to a double, over a common denominator:
`low / den` to `high / den` around `value / den`, with `closed` when the ends round to it. -/
structure Neighbourhood where
  low : Nat
  value : Nat
  high : Nat
  den : Nat
  closed : Bool

/-- The reals that round to `m · 2 ^ q`. Below a power of two the next double is only half as
far away. -/
def neighbourhood (m : Nat) (q : Int) : Neighbourhood :=
  let up := power 2 q
  let den := 4 * power 2 (-q)
  let below := if m = power 2 52 ∧ -1074 < q then 1 else 2
  ⟨(4 * m - below) * up, 4 * m * up, (4 * m + 2) * up, den, m % 2 = 0⟩

/-- Whether `d · 10 ^ k` lies in the neighbourhood. -/
def Neighbourhood.contains (n : Neighbourhood) (d : Nat) (k : Int) : Bool :=
  let point := d * power 10 k * n.den
  let unit := power 10 (-k)
  if n.closed then n.low * unit ≤ point && point ≤ n.high * unit
  else n.low * unit < point && point < n.high * unit

/-- The nearest point of the grid of multiples of `10 ^ k` that lies in the neighbourhood, if one
does. Of two at the same distance the even multiple is taken. -/
def Neighbourhood.onGrid? (n : Neighbourhood) (k : Int) : Option Nat :=
  let num := n.value * power 10 (-k)
  let den := n.den * power 10 k
  let near := divRound num den
  let other := if near * den ≤ num then near + 1 else near - 1
  if n.contains near k then some near
  else if n.contains other k then some other
  else none

/-- Tries the grids from coarse to fine, starting at `10 ^ k`. -/
def Neighbourhood.coarsest (n : Neighbourhood) : Nat → Int → Nat × Int
  | 0, k => (n.value / n.den, k)
  | fuel + 1, k =>
    match n.onGrid? k with
    | some d => if d = 0 then n.coarsest fuel (k - 1) else (d, k)
    | none => n.coarsest fuel (k - 1)

/-- The least number of digits that read back as `m · 2 ^ q`, as digits and the power of ten of
the last one. -/
def shortest (m : Nat) (q : Int) : Nat × Int :=
  let n := neighbourhood m q
  let top : Int := if n.den ≤ n.value then (Nat.toDigits 10 (n.value / n.den)).length
    else 1 - (Nat.toDigits 10 (n.den / n.value)).length
  n.coarsest 20 top

/-- Removes trailing zeros, counting them into the power of ten. -/
def stripZeros : Nat → Nat × Int → Nat × Int
  | 0, p => p
  | fuel + 1, (d, k) => if d % 10 = 0 ∧ d ≠ 0 then stripZeros fuel (d / 10, k + 1) else (d, k)

/-! ## Written form -/

/-- Zeros. -/
def zeros (n : Nat) : String := String.ofList (List.replicate n '0')

/-- Writes `0.d₁d₂… · 10 ^ point`: positional while `-4 < point ≤ 16`, otherwise with one digit
before the point and an exponent. -/
def layout (digits : List Char) (point : Int) : String :=
  if -4 < point ∧ point ≤ 0 then
    "0." ++ zeros (-point).toNat ++ String.ofList digits
  else if 0 < point ∧ point ≤ 16 then
    let n := point.toNat
    if digits.length ≤ n then String.ofList digits ++ zeros (n - digits.length) ++ ".0"
    else String.ofList (digits.take n) ++ "." ++ String.ofList (digits.drop n)
  else
    let mantissa := match digits with
      | [] => "0"
      | [d] => String.ofList [d]
      | d :: ds => String.ofList [d, '.'] ++ String.ofList ds
    let e := point - 1
    mantissa ++ "e" ++ (if e < 0 then "-" else "+") ++ padded 2 e.natAbs

/-- The written form of a double. -/
def text : Binary64 → String
  | .nan => "nan"
  | .infinite negative => if negative then "-inf" else "inf"
  | .finite negative m q =>
    let minus := if negative then "-" else ""
    if m = 0 then minus ++ "0.0"
    else
      let (d, k) := stripZeros 400 (shortest m q)
      let digits := Nat.toDigits 10 d
      minus ++ layout digits (digits.length + k)

/-- Reads a double written as a numeral or as `nan`, `inf` or a signed one of these, in any case and
with or without the rest of `infinity`. -/
def read (s : List Char) : Binary64 :=
  let (negative, r) := Numeral.sign (s.map Char.toLower)
  if r = "nan".toList then .nan
  else if r = "inf".toList ∨ r = "infinity".toList then .infinite negative
  else (Numeral.read s).toBinary64

end Binary64

end DataShape
