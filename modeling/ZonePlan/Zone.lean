/-
Zones.

A zone is known by its identity.  It is shown by its name; one without a name is shown by
its identity.
-/
import ZonePlan.Text.Basic

namespace ZonePlan

/-- A zone and the name that it is shown by. -/
structure Zone where
  id : Text
  name : Text
deriving DecidableEq, Repr

namespace Zone

/-- How a zone without a name is shown. -/
def nameless (id : Text) : Text := "<zone " ++ id ++ ">"

/-- The zone of an identity and perhaps a name. -/
def named (id : Text) (name : Option Text) : Zone where
  id
  name := match name with
    | some name => if name = "" then nameless id else name
    | none => nameless id

end Zone
end ZonePlan
