import RobotKit.Device.Operation

/-!
# Drive trains

A drive train has a motor or a motor group on each side. One that knows its heading has a sensor
for it too.
-/

namespace RobotKit.Device.Drive

/-- Is the value a motor or a motor group? -/
def turnsWheels (value : Value) : Act Bool := do
  if ← isOfKind value "Motor" then return true
  isOfKind value "MotorGroup"

/-- Fails unless there is something on both sides that turns wheels. -/
def checkSides (arguments : Arguments) : Act Unit := do
  unless ← turnsWheels (arguments.get "lm") do throw .needsMotors
  unless ← turnsWheels (arguments.get "rm") do throw .needsMotors

def knowsHeading (value : Value) : Act Bool := do
  if ← isOfKind value "Gyro" then return true
  if ← isOfKind value "Inertial" then return true
  isOfKind value "Gps"

/-- Starts a drive train. -/
def begin : Body := fun _ arguments => do
  checkSides arguments
  let train := arguments.get "self"
  setAttribute train "lm" (arguments.get "lm")
  setAttribute train "rm" (arguments.get "rm")
  return .nothing

/-- Starts a drive train that knows its heading. -/
def beginSmart : Body := fun library arguments => do
  checkSides arguments
  unless ← knowsHeading (arguments.get "g") do throw .needsSensor
  let _ ← begin library arguments
  setAttribute (arguments.get "self") "g" (arguments.get "g")
  return .nothing

def sensorRotation : Body := fun library arguments => do
  let sensor ← library.look (arguments.get "self") "g"
  library.invoke sensor "rotation" [arguments.get "units"]

end RobotKit.Device.Drive
