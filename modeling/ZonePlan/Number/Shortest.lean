/-
The shortest decimal text of a double.

A decimal reads back as a double when it lies closer to that double than to its
neighbours; the ends of that interval belong to it exactly when the mantissa is even.
`shortest` tries 1, 2, …, 17 significant digits and takes the first grid of decimals that
has a point in the interval, and of two such points the nearer one.  Only the two
neighbours of the exact value on each grid need testing.  All comparisons are between
natural numbers.
-/
import ZonePlan.Number.Double

namespace ZonePlan

open Number (pow2 pow10)

/-! ### The decimals that read back -/

/-- A decimal `digits * 10 ^ exponent`. -/
structure Decimal where
  digits : Nat
  exponent : Int
deriving DecidableEq, Repr

namespace Shortest

/-- The decimals that read back as one positive double, in quarters of a unit. -/
structure Interval where
  low : Nat
  high : Nat
  closed : Bool

/-- The interval of a positive count of units: half a step to each side, but a quarter of a
step below a power of two, where the doubles beneath lie twice as close. -/
def interval (units : Nat) : Interval :=
  let step := pow2 (lostBits units)
  let below := if units = pow2 52 * step ∧ 0 < lostBits units then step else 2 * step
  { low := 4 * units - below
    high := 4 * units + 2 * step
    closed := units / step % 2 = 0 }

/-- The factors by which quarter units and the multiples of `10 ^ exponent` are brought to a
common scale: `d * 10 ^ exponent` equals `q` quarter units iff `d * grid = q * scale`. -/
def scales (exponent : Int) : Nat × Nat :=
  match exponent with
  | .ofNat e => (pow10 e * (4 * Double.unitsPerOne), 1)
  | .negSucc e => (4 * Double.unitsPerOne, pow10 (e + 1))

/-- Whether a point of a grid lies in an interval, both brought to the common scale. -/
def Interval.contains (i : Interval) (digits grid scale : Nat) : Bool :=
  if i.closed then i.low * scale ≤ digits * grid && digits * grid ≤ i.high * scale
  else i.low * scale < digits * grid && digits * grid < i.high * scale

/-- The nearest point of one grid that reads back; of two equally near ones, the even one. -/
def onGrid (units : Nat) (exponent : Int) : Option Nat :=
  let (grid, scale) := scales exponent
  let i := interval units
  let below := 4 * units * scale / grid
  let rest := 4 * units * scale % grid
  match i.contains below grid scale, i.contains (below + 1) grid scale with
  | true, true =>
    some (if 2 * rest < grid then below
      else if grid < 2 * rest then below + 1
      else below + below % 2)
  | true, false => some below
  | false, true => some (below + 1)
  | false, false => none

/-- The power of ten at the first significant digit of a positive count of units. -/
def magnitude (units : Nat) : Int :=
  Double.decimalLength (units * pow10 400 / Double.unitsPerOne) - 401

/-- Tries grids of increasing fineness, `left` of them. -/
def search (units : Nat) : (left : Nat) → (exponent : Int) → Decimal
  | 0, exponent => ⟨(onGrid units exponent).getD 0, exponent⟩
  | left + 1, exponent =>
    match onGrid units exponent with
    | some digits => ⟨digits, exponent⟩
    | none => search units left (exponent - 1)

end Shortest

/-- The shortest decimal that reads back as the positive count of units, and of those of
equal length the nearest. -/
def shortest (units : Nat) : Decimal :=
  Shortest.search units 16 (Shortest.magnitude units)

/-! ### Writing it down -/

/-- The digits of a natural number without its trailing zeros. -/
def significantDigits (n : Nat) : List Char :=
  ((Nat.toDigits 10 n).reverse.dropWhile (· = '0')).reverse

/-- Text of a whole exponent: a sign and at least two digits. -/
def exponentText (e : Int) : List Char :=
  (if e < 0 then '-' else '+') ::
    let digits := Nat.toDigits 10 e.natAbs
    if digits.length < 2 then '0' :: digits else digits

/-- Positional from 10⁻⁴ up to below 10¹⁶, with a point in every case; scientific outside. -/
def Decimal.text (d : Decimal) : List Char :=
  let digits := significantDigits d.digits
  let first : Int := d.exponent + Double.decimalLength d.digits - 1
  if first < -4 ∨ 16 ≤ first then
    (match digits with
      | [] => ['0']
      | [c] => [c]
      | c :: rest => c :: '.' :: rest) ++ 'e' :: exponentText first
  else if first < 0 then
    '0' :: '.' :: List.replicate (-first - 1).toNat '0' ++ digits
  else
    let whole := (first + 1).toNat
    let padded := digits ++ List.replicate (whole - digits.length) '0'
    padded.take whole ++ '.' :: (if padded.length ≤ whole then ['0'] else padded.drop whole)

/-- The text of a double: the shortest decimal that reads back. -/
def Double.text : Double → String
  | .nan => "nan"
  | .infinite negative => if negative then "-inf" else "inf"
  | .finite x =>
    let size := if x.units = 0 then ['0', '.', '0'] else (shortest x.units).text
    String.ofList (if x.negative then '-' :: size else size)

end ZonePlan
