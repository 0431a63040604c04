/-
What makes a collaborator.

Zones and updaters are known by what they offer: anything that has a name and can be set is
a thermostat, and anything that can update is an updater.
-/
namespace ZonePlan.Collaborator

/-- Whether something with the given members is a thermostat. -/
def isThermostat (members : List String) : Bool :=
  members.contains "name" && members.contains "set"

/-- Whether something with the given members is a source of schedules. -/
def isUpdater (members : List String) : Bool := members.contains "update"

end ZonePlan.Collaborator
