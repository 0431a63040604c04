/-
What a zone is told to adopt, and how far it is from that.

A status holds the settings of a zone while a period is in force.  Two statuses are equal
by value when their setpoints are numerically equal and everything else is the same.  A
deviation compares a status with the actual settings of a zone.
-/
import ZonePlan.Failure
import ZonePlan.Setpoint

namespace ZonePlan

/-- The settings that a zone is told to adopt. -/
structure Status where
  setpoint : FiniteDouble
  dumpPriority : Nat
  enabled : Bool
  voting : Bool
deriving DecidableEq

namespace Status

/-- The status of the given settings, or the first thing that is wrong with them. -/
def make (setpoint : Double) (dumpPriority : Int) (enabled voting : Bool) :
    Except Failure Status :=
  match setpoint with
  | .finite x =>
    if dumpPriority < 0 then .error (.negativePriority dumpPriority)
    else .ok ⟨x, dumpPriority.toNat, enabled, voting⟩
  | x => .error (.setpointNotFinite x)

/-- Equality by value. -/
def eqv (s t : Status) : Bool :=
  s.setpoint.eqv t.setpoint && s.dumpPriority == t.dumpPriority && s.enabled == t.enabled &&
    s.voting == t.voting

theorem eqv_refl (s : Status) : s.eqv s = true := by simp [eqv, FiniteDouble.eqv]

theorem eqv_symm {s t : Status} (h : s.eqv t = true) : t.eqv s = true := by
  simp only [eqv, FiniteDouble.eqv, Bool.and_eq_true, beq_iff_eq] at *
  exact ⟨⟨⟨h.1.1.1.symm, h.1.1.2.symm⟩, h.1.2.symm⟩, h.2.symm⟩

theorem eqv_trans {s t u : Status} (h : s.eqv t = true) (h' : t.eqv u = true) :
    s.eqv u = true := by
  simp only [eqv, FiniteDouble.eqv, Bool.and_eq_true, beq_iff_eq] at *
  exact ⟨⟨⟨h.1.1.1.trans h'.1.1.1, h.1.1.2.trans h'.1.1.2⟩, h.1.2.trans h'.1.2⟩, h.2.trans h'.2⟩

/-- How many statuses are different by value. -/
def distinct (statuses : List Status) : Nat :=
  (statuses.foldl (fun seen s => if seen.any s.eqv then seen else s :: seen) []).length

/-- The text of a status. -/
def text (s : Status) : String :=
  let parts := [
    "setpoint=" ++ Setpoint.text (.finite s.setpoint),
    if s.enabled then "enabled" else "disabled",
    if s.voting then "voting" else "not voting"] ++
    if s.dumpPriority = 0 then [] else ["dump priority=" ++ toString s.dumpPriority]
  ", ".intercalate parts

end Status

/-- How the actual settings of a zone differ from its status. -/
structure Deviation where
  /-- The setpoint of the status less the actual one. -/
  setpoint : Double
  /-- Whether the zone is enabled against its status, or not enabled against it. -/
  enabled : Bool
  /-- Whether the zone votes against its status, or does not vote against it. -/
  voting : Bool
deriving DecidableEq

namespace Deviation

/-- No deviation. -/
def none : Deviation := ⟨.finite (.zero false), false, false⟩

/-- Whether nothing differs. -/
def isNone (d : Deviation) : Bool :=
  d.setpoint.eqv (.finite (.zero false)) && !d.enabled && !d.voting

/-- Whether something differs. -/
def deviates (d : Deviation) : Bool :=
  !d.setpoint.eqv (.finite (.zero false)) || d.enabled || d.voting

/-- A zone deviates exactly when its deviation is not none. -/
theorem deviates_eq_not_isNone (d : Deviation) : d.deviates = !d.isNone := by
  simp [deviates, isNone, Bool.not_and]

/-- The text of a deviation. -/
def text (d : Deviation) : String :=
  "(setpoint deviation=" ++ Setpoint.text d.setpoint ++
    (if d.enabled then ", enabled differs" else "") ++
    (if d.voting then ", voting differs" else "") ++ ")"

end Deviation

/-- Whether actual settings agree with a status by value. -/
def Status.agrees (s : Status) (setpoint : Double) (enabled voting : Bool) : Bool :=
  (Double.finite s.setpoint).eqv setpoint && s.enabled == enabled && s.voting == voting

/-- The deviation of actual settings from a status; none if they agree by value. -/
def Status.deviation (s : Status) (setpoint : Double) (enabled voting : Bool) : Deviation :=
  if s.agrees setpoint enabled voting then .none
  else ⟨(Double.finite s.setpoint).sub setpoint, s.enabled != enabled, s.voting != voting⟩

end ZonePlan
