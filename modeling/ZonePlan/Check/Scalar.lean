/-
Reading the scalars of a tree.

A field that should hold a number or a truth value also takes values of other kinds that
stand for one: a text that writes it, a truth value for 0 or 1, a whole double for a whole
number.  Each reader gives the value or the cause why there is none.
-/
import ZonePlan.Check.Fault
import ZonePlan.Number.Reading

namespace ZonePlan.Check

/-- The limit of whole numbers of 64 bits. -/
def wordLimit : Int := Number.pow2 63

/-- Whether a whole number has 64 bits. -/
def inWord (n : Int) : Bool := -wordLimit ≤ n && n < wordLimit

/-- Whether the whole number that a double equals lies strictly inside those of 64 bits. -/
def insideWord (n : Int) : Bool := -wordLimit < n && n < wordLimit

/-! ### Text -/

/-- The characters of a text; half of a surrogate pair is none. -/
def characters (t : Text) : Except Misfit (List Char) :=
  match t.chars? with
  | some s => .ok s
  | none => .error .brokenText

/-- Characters of which there are a given number. -/
def ofLength (least : Nat) (most : Option Nat) (s : List Char) : Except Misfit String :=
  if s.length < least then .error (.tooShort least)
  else match most with
    | some most => if most < s.length then .error (.tooLong most) else .ok (String.ofList s)
    | none => .ok (String.ofList s)

/-- A text of a given number of characters. -/
def text (least : Nat) (most : Option Nat) : Json.Value → Except Misfit String
  | .text t => (characters t).bind (ofLength least most)
  | _ => .error .notText

/-! ### Numbers -/

/-- The number that characters write. -/
def writtenNumber (s : List Char) : Except Misfit Double :=
  match Number.double? s with
  | some x => .ok x
  | none => .error .unreadableNumber

/-- A whole number as the double nearest to it.  Beyond all doubles it counts as infinite in text,
and is refused where it was decoded before. -/
def nearestDouble (reading : Reading) (x : Double) : Except Misfit Double :=
  match reading, x with
  | .decoded, .infinite _ => .error .notNumber
  | _, x => .ok x

/-- A number. -/
def number (reading : Reading) : Json.Value → Except Misfit Double
  | .int n => nearestDouble reading (.ofInt n)
  | .float x => .ok x
  | .bool b => .ok (.ofInt (if b then 1 else 0))
  | .text t => (characters t).bind writtenNumber
  | _ => .error .notNumber

/-- A finite number. -/
def finiteNumber (reading : Reading) (v : Json.Value) : Except Misfit FiniteDouble :=
  match number reading v with
  | .ok (.finite x) => .ok x
  | .ok _ => .error .notFinite
  | .error m => .error m

/-- A positive number, which may be infinite. -/
def positiveNumber (reading : Reading) (v : Json.Value) : Except Misfit Double :=
  match number reading v with
  | .ok x => if x.isPositive then .ok x else .error (.notAbove 0)
  | .error m => .error m

/-- The whole number that a double is. -/
def wholeOfDouble (x : Double) : Except Misfit Int :=
  match x with
  | .finite _ =>
    match x.toInt? with
    | none => .error .fractional
    | some n => if insideWord n then .ok n else .error .wholeTooLarge
  | _ => .error .notFinite

/-- The whole number that characters write. -/
def writtenWhole (s : List Char) : Except Misfit Int :=
  match Number.whole s with
  | .number n => .ok n
  | .tooLong => .error .wholeTooLarge
  | .none => .error .unreadableWhole

/-- A whole number. -/
def whole : Json.Value → Except Misfit Int
  | .int n => .ok n
  | .bool b => .ok (if b then 1 else 0)
  | .float x => wholeOfDouble x
  | .text t => (characters t).bind writtenWhole
  | _ => .error .notWhole

/-- A whole number that is not below another. -/
def wholeFrom (least : Int) (v : Json.Value) : Except Misfit Int :=
  match whole v with
  | .ok n => if n < least then .error (.below least) else .ok n
  | .error m => .error m

/-- A whole number above another. -/
def wholeAbove (bound : Int) (v : Json.Value) : Except Misfit Int :=
  match whole v with
  | .ok n => if n ≤ bound then .error (.notAbove bound) else .ok n
  | .error m => .error m

/-! ### Truth values -/

/-- The words for the two truth values. -/
def truthWords : List (String × Bool) :=
  [("0", false), ("f", false), ("n", false), ("no", false), ("off", false), ("false", false),
    ("1", true), ("t", true), ("y", true), ("on", true), ("yes", true), ("true", true)]

/-- The truth value that a number stands for. -/
def truthOfInt (n : Int) : Except Misfit Bool :=
  if n = 0 then .ok false else if n = 1 then .ok true else .error .unreadableTruth

/-- The truth value that characters write, in letters of either case. -/
def writtenTruth (s : List Char) : Except Misfit Bool :=
  match truthWords.find? fun (word, _) => word.toList = s.map Char.toLower with
  | some (_, b) => .ok b
  | none => .error .unreadableTruth

/-- A truth value. -/
def truth : Json.Value → Except Misfit Bool
  | .bool b => .ok b
  | .int n => if inWord n then truthOfInt n else .error .notTruth
  | .float x =>
    match x.toInt? with
    | some n => if insideWord n then truthOfInt n else .error .notTruth
    | none => .error .notTruth
  | .text t => (characters t).bind writtenTruth
  | _ => .error .notTruth

end ZonePlan.Check
