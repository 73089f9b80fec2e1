import RobotKit.Device.Time

/-!
# Motor groups

A motor group tells each of its motors in turn what to do. It can wait until they have come to
rest: it looks every ten milliseconds whether one is still spinning, until its timeout is over,
and then stops them.
-/

namespace RobotKit.Device.MotorGroup

/-- The timeout of a group that was not given one. -/
def noTimeout : Value := .integer 9223372036854775807

def longestTimeout : Value := .integer 100000

def motors (library : Library) (group : Value) : Act (List Value) := do
  lift (← library.look group "_motors").elements

/-- Calls an operation of each of the motors. -/
def tellAll (library : Library) (operation : String) (arguments : List Value) :
    List Value → Act Unit
  | [] => pure ()
  | motor :: rest => do
    let _ ← library.invoke motor operation arguments
    tellAll library operation arguments rest

/-- Calls an operation of each motor with arguments of the group's own operation. -/
def eachMotor (operation : String) (parameters : List String) : Body :=
  fun library arguments => do
    tellAll library operation (parameters.map arguments.get)
      (← motors library (arguments.get "self"))
    return .nothing

def firstMotor (operation : String) (parameters : List String) : Body :=
  fun library arguments => do
    let motor ← lift (← library.look (arguments.get "self") "_motors").first
    library.invoke motor operation (parameters.map arguments.get)

/-- The first true answer of the motors, or else the last one; motors after the first true answer
are not asked. -/
def anyMotor (library : Library) (operation : String) (found : Value) :
    List Value → Act Value
  | [] => pure found
  | motor :: rest => do
    if found.isTrue then return found
    anyMotor library operation (← library.invoke motor operation []) rest

/-- The sum of the answers of the motors. -/
def total (library : Library) (operation : String) (arguments : List Value) (sum : Value) :
    List Value → Act Value
  | [] => pure sum
  | motor :: rest => do
    let answer ← library.invoke motor operation arguments
    total library operation arguments (← lift (sum.add answer)) rest

/-! ## Starting a group -/

/-- The motors among the values. -/
def onlyMotors : List Value → Act (List Value)
  | [] => pure []
  | value :: rest => do
    if ← isOfKind value "Motor" then return value :: (← onlyMotors rest)
    onlyMotors rest

/-- Starts a group with the motors among its arguments. -/
def begin : Body := fun _ arguments => do
  let group := arguments.get "self"
  setAttribute group "_motors" (.list (← onlyMotors arguments.others))
  setAttribute group "_timeout" noTimeout
  return .nothing

def count : Body := fun library arguments => do
  return .integer (← lift (← library.look (arguments.get "self") "_motors").size)

/-! ## Timeouts -/

/-- The timeout in milliseconds that a group keeps, and the one that its motors are told. -/
def timeouts (timeout units : Value) : Except Fault (Value × Value) := do
  let seconds ← if isSeconds units then timeout.greater (.integer 0) else pure false
  if seconds then
    let told := if ← timeout.greater longestTimeout then longestTimeout else timeout
    return (← told.mul (.integer 1000), told)
  else if ← timeout.atMost (.integer 0) then return (noTimeout, timeout)
  else return (timeout, timeout)

/-- Sets the timeout of the group and of its motors. -/
def setTimeout : Body := fun library arguments => do
  let group := arguments.get "self"
  let units := arguments.get "units"
  let (kept, told) ← lift (timeouts (arguments.get "timeout") units)
  setAttribute group "_timeout" kept
  tellAll library "set_timeout" [told, units] (← motors library group)
  return .nothing

/-! ## Waiting -/

/-- A number of rounds in which a time that starts at this value runs out, if it ever does. -/
def rounds (time : Value) : Nat :=
  match time.number? with
  | some (.integer n) => n.toNat + 1
  | some (.decimal x) =>
    if x.isInfinite then Decimal.twoTo 64
    else let (num, den) := fraction x; (num / den).toNat + 2
  | none => 1

/-- Waits in steps of ten milliseconds while a motor is spinning and time is left. -/
def poll (library : Library) (group : Value) : Nat → Value → Act Unit
  | 0, _ => throw .endless
  | rounds + 1, left => do
    if ← lift (left.greater (.integer 0)) then
      if (← library.invoke group "is_spinning" []).isTrue then
        let left ← lift (left.sub (.integer 10))
        let _ ← library.call (.routine "" "sleep" none) [.integer 10]
        poll library group rounds left

/-- Waits until the motors are at rest, stops them if the time is up before, and tells whether
they came to rest. -/
def waitForCompletion : Body := fun library arguments => do
  let group := arguments.get "self"
  let timeout ← library.look group "_timeout"
  poll library group (rounds timeout) timeout
  let done ← library.invoke group "is_done" []
  unless done.isTrue do
    let _ ← library.invoke group "stop" []
  return done

def waitIf (library : Library) (arguments : Arguments) : Act Value :=
  if (arguments.get "wait").isTrue then
    library.invoke (arguments.get "self") "_MotorGroup__waitForCompletionAll" []
  else pure (.flag false)

/-! ## Spinning -/

def spinToPosition : Body := fun library arguments => do
  let told := ["rotation", "units", "velocity", "units_v"].map arguments.get ++ [.flag false]
  tellAll library "spin_to_position" told (← motors library (arguments.get "self"))
  waitIf library arguments

/-- Spins all motors by a rotation. -/
def spinForDistance : Body := fun library arguments => do
  let told := ["direction", "rotation", "units", "velocity", "units_v"].map arguments.get
  tellAll library "spin_for" (told ++ [.flag false]) (← motors library (arguments.get "self"))
  waitIf library arguments

/-- Spins every motor, the last one for a time, which then is the time for all. -/
def spinAllFor (library : Library) (arguments : Arguments) (last : Value) :
    List Value → Act Unit
  | [] => pure ()
  | motor :: rest => do
    let _ ← if motor.equal last then
        library.invoke motor "spin_for"
          (["direction", "time", "units", "velocity", "units_v"].map arguments.get)
      else
        library.invoke motor "spin" (["direction", "velocity", "units_v"].map arguments.get)
    spinAllFor library arguments last rest

/-- Spins all motors for a time and stops them. -/
def spinForTime : Body := fun library arguments => do
  let group := arguments.get "self"
  let all ← motors library group
  spinAllFor library arguments (all.getLast?.getD .nothing) all
  let _ ← library.invoke group "stop" []
  return .nothing

/-- Spins all motors for a time or by a rotation, according to the unit. -/
def spinFor : Body := fun library arguments => do
  let group := arguments.get "self"
  let told := ["direction", "rotation", "units", "velocity", "units_v"].map arguments.get
  if ← isOfKind (arguments.get "units") "TimeUnits" then
    let _ ← library.invoke group "_MotorGroup__spin_for_time" told
  else
    let _ ← library.invoke group "_MotorGroup__spin_for_distance"
      (told ++ [arguments.get "wait"])
  return .nothing

def isSpinning : Body := fun library arguments => do
  anyMotor library "is_spinning" (.flag false) (← motors library (arguments.get "self"))

/-- Was a motor told to spin? -/
def isSpinningMode : Body := fun library arguments => do
  anyMotor library "is_spinning_mode" (.flag false) (← motors library (arguments.get "self"))

/-- Are all motors at rest? -/
def isDone : Body := fun library arguments => do
  return .flag !(← library.invoke (arguments.get "self") "is_spinning" []).isTrue

def current : Body := fun library arguments => do
  total library "current" [arguments.get "units"] (.integer 0)
    (← motors library (arguments.get "self"))

end RobotKit.Device.MotorGroup
