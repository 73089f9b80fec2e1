import RobotKit.Device.Operation

/-!
# Pausing

Two functions let a program pause. They take a duration and its unit, and differ in the unit in
which the clock then counts. In the earlier edition of the library the two are the same.
-/

namespace RobotKit.Device

/-- An edition of the device library. -/
inductive Edition where
  | current
  | earlier
deriving DecidableEq

def isSeconds (units : Value) : Bool := units.equal (unit "TimeUnits.SECONDS")

/-- Pauses for a duration, of which a thousandth is taken if it is in seconds. -/
def pauseInThousandths : Body := fun _ arguments => do
  let duration := arguments.get "duration"
  if isSeconds (arguments.get "units") then pause (← lift (duration.divideBy 1000))
  else pause duration
  return .nothing

/-- Pauses for a duration, of which a thousandth is taken unless it is in seconds. -/
def pauseInSeconds : Body := fun _ arguments => do
  let duration := arguments.get "duration"
  if isSeconds (arguments.get "units") then pause duration
  else pause (← lift (duration.divideBy 1000))
  return .nothing

def pauseParameters : List Parameter := [.need "duration", .may "units" (unit "TimeUnits.MSEC")]

/-- The function that pauses for a while. -/
def sleep : Operation := function "sleep" pauseParameters pauseInThousandths

/-- The function that waits for a while. -/
def wait : Edition → Operation
  | .current => function "wait" pauseParameters pauseInSeconds
  | .earlier => function "wait" pauseParameters pauseInThousandths

end RobotKit.Device
