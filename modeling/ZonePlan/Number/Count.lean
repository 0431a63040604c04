/-
Numbers as they are given.

What counts milliseconds may be given as a whole number of any size or as a double.  Both
are compared exactly; only a difference that involves a double is rounded.
-/
import ZonePlan.Number.Shortest

namespace ZonePlan

/-- A number as it is given: whole or a double. -/
inductive Count where
  | whole (n : Int)
  | double (x : Double)
deriving DecidableEq

namespace Count

/-- Whether the number lies in the closed range of whole numbers. -/
def within (n : Count) (low high : Int) : Bool :=
  match n with
  | .whole n => low ≤ n && n ≤ high
  | .double x => x.within low high

/-- Whether the number is less than a whole number. -/
def isBelow (n : Count) (bound : Int) : Bool :=
  match n with
  | .whole n => n < bound
  | .double x => x.isBelow bound

/-- Whether the number is greater than a whole number. -/
def isAbove (n : Count) (bound : Int) : Bool :=
  match n with
  | .whole n => bound < n
  | .double x => x.isAbove bound

/-- Whether the number is zero. -/
def isZero : Count → Bool
  | .whole n => n == 0
  | .double x => x.eqv (.finite (.zero false))

/-- The double nearest to the number. -/
def toDouble : Count → Double
  | .whole n => .ofInt n
  | .double x => x

/-- The difference of two numbers, rounded unless both are whole. -/
def sub : Count → Count → Count
  | .whole n, .whole k => .whole (n - k)
  | n, k => .double (n.toDouble.sub k.toDouble)

/-- The text of a number. -/
def text : Count → String
  | .whole n => toString n
  | .double x => x.text

/-- A number of milliseconds in seconds. -/
def seconds : Count → Double
  | .whole n => .ofRatio (n < 0) n.natAbs 1000
  | .double (.finite x) => .ofUnits x.negative x.units 1000
  | .double x => x

end Count
end ZonePlan
