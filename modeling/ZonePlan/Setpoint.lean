/-
Setpoints as messages show them.

A setpoint is shown to four places, a half of the last place going to the even neighbour.
Zeros at the end are left off, but one place is always shown, and a number that rounds to
zero is shown without a sign.
-/
import ZonePlan.Calendar.Moment
import ZonePlan.Number.Shortest

namespace ZonePlan.Setpoint

/-- The ten-thousandth parts that a size comes to, rounded. -/
def parts (units : Nat) : Nat := Rounding.halfEven (units * 10000) Double.unitsPerOne

/-- The places of a number of ten-thousandth parts: at least one, and no zero at the end
after it. -/
def places (parts : Nat) : List Char :=
  let digits := (Calendar.Moment.padded 4 (parts % 10000)).toList
  match (digits.reverse.dropWhile (· = '0')).reverse with
  | [] => ['0']
  | shown => shown

/-- The decimal of a number of ten-thousandth parts. -/
def decimal (negative : Bool) (parts : Nat) : List Char :=
  let size := Nat.toDigits 10 (parts / 10000) ++ '.' :: places parts
  if negative && parts != 0 then '-' :: size else size

/-- The text of a setpoint. -/
def text : Double → String
  | .nan => "nan"
  | .infinite negative => if negative then "-inf" else "inf"
  | .finite x => String.ofList (decimal x.negative (parts x.units))

end ZonePlan.Setpoint
