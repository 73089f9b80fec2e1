import RobotKit.Device.Operation

/-!
# Sensors

What a robot can sense of its place, its motion and its surroundings.
-/

namespace RobotKit.Device

/-- Says yes the first two times after calibration began. -/
def countsCalibration : Body := fun library arguments => do
  let sensor := arguments.get "self"
  let asked ← lift ((← library.look sensor "calsim").add (.integer 1))
  setAttribute sensor "calsim" asked
  return .flag (← lift (asked.less (.integer 3)))

/-- Operations for the heading and the turns so far. -/
def turns : List Operation := [
  adjusts "set_heading" "RotationUnits.DEG",
  silent "reset_heading",
  measures "heading" "RotationUnits.DEG" 20,
  adjusts "set_rotation" "RotationUnits.DEG",
  silent "reset_rotation",
  measures "rotation" "RotationUnits.DEG" 20]

/-- Operations for calibration and for each axis. -/
def axes : List Operation := [
  silent "calibrate",
  no "is_calibrating",
  method "orientation" [.need "axis", inUnits "RotationUnits.DEG"] pass,
  method "gyro_rate" [.need "axis", inUnits "VelocityUnits.DPS"] pass,
  method "acceleration" [.need "axis"] pass]

/-- Operations for the direction in which turns count. -/
def turnType : List Operation := [
  method "set_turn_type" [.need "turntype"] pass,
  method "get_turn_type" [] (gives (unit "TurnType.RIGHT"))]

/-- A sensor for the place on the field. -/
def gps : Kind where
  name := "Gps"
  start := starting [.need "port", .others] (keep [("_index", .given "port")])
  operations := [
    method "installed" [.others] (gives (.flag true)),
    zero "timestamp"] ++ turns ++ [
    measures "x_position" "DistanceUnits.MM" 0,
    measures "y_position" "DistanceUnits.MM" 0,
    method "quality" [] (gives (.integer 100)),
    method "set_origin" [.may "x" (.integer 0), .may "y" (.integer 0),
      inUnits "DistanceUnits.MM"] pass,
    method "set_location" [.need "x", .need "y", inUnits "DistanceUnits.MM",
      .may "angle" (.integer 0), .may "units_r" (unit "RotationUnits.DEG")] pass] ++ axes ++ [
    adjusts "set_sensor_rotation" "RotationUnits.DEG",
    handler "changed"] ++ turnType

/-- A sensor for turns and acceleration. -/
def inertial : Kind where
  name := "Inertial"
  start := atPort
  operations := [
    method "installed" [.others] (gives (.flag true)),
    zero "timestamp"] ++ turns ++ axes ++ [
    handler "changed",
    handler "collision"] ++ turnType

def gyro : Kind where
  name := "Gyro"
  start := starting [.need "port"] (keep [("_index", .given "port"),
    ("calsim", .fixed (.integer 0))])
  operations := [
    measures "value" "RotationUnits.DEG" 0,
    zero "type",
    method "calibrate" [] (keep [("calsim", .fixed (.integer 0))]),
    method "is_calibrating" [] countsCalibration,
    handler "changed",
    silent "reset_heading",
    silent "reset_rotation",
    adjusts "set_heading" "RotationUnits.DEG",
    measures "heading" "RotationUnits.DEG" 20,
    adjusts "set_rotation" "RotationUnits.DEG",
    measures "rotation" "RotationUnits.DEG" 20] ++ turnType

/-- A sensor for the angle of a shaft. -/
def rotation : Kind where
  name := "Rotation"
  start := starting [.need "port", .may "reverse" (.flag false)] (keep [("_index", .given "port"),
    ("_reversed", .given "reverse")])
  operations := [
    yes "installed",
    zero "timestamp",
    method "set_reversed" [.need "value"] (keep [("_reversed", .given "value")]),
    measures "angle" "RotationUnits.DEG" 0,
    silent "reset_position",
    adjusts "set_position" "RotationUnits.DEG",
    measures "position" "RotationUnits.DEG" 20,
    measures "velocity" "VelocityUnits.RPM" 20,
    handler "changed"]

/-- A sensor for the distance of an object. -/
def distance : Kind where
  name := "Distance"
  start := atPort
  operations := [
    yes "installed",
    zero "timestamp",
    measures "object_distance" "DistanceUnits.MM" 0,
    method "object_size" [] (gives (unit "ObjectSizeType.NONE")),
    zero "object_rawsize",
    zero "object_velocity",
    yes "is_object_detected",
    handler "changed"]

/-- A switch, at the end of a way or in a bumper. -/
def switch (name : String) : Kind :=
  wired name [handler "pressed", handler "released", zero "pressing"]

def digitalIn : Kind := wired "DigitalIn" [handler "high", handler "low"]

def digitalOut : Kind := wired "DigitalOut" [takes "set"]

/-- A sensor at a port for three wires whose value is one of many. -/
def analog (name : String) (operations : List Operation) : Kind where
  name := name
  start := atPort
  operations := measures "value" "AnalogUnits.TWELVEBIT" 0 :: zero "type" :: operations

def potentiometer (name : String) : Kind :=
  analog name [measures "angle" "RotationUnits.DEG" 0, handler "changed"]

def line : Kind :=
  analog "Line" [measures "reflectivity" "PercentUnits.PERCENT" 0, handler "changed"]

def light : Kind :=
  analog "Light" [measures "brightness" "PercentUnits.PERCENT" 0, handler "changed"]

def accelerometer : Kind :=
  { analog "Accelerometer" [
      method "acceleration" [] (gives (.decimal { bits := 0x3ff0000000000000 })),
      handler "changed"] with
    start := starting [.need "port", .may "sensitivity" (.integer 0)]
      (keep [("_index", .given "port")]) }

def analogIn : Kind := analog "AnalogIn" [handler "changed"]

/-- A sensor for the turns of a shaft. -/
def encoder : Kind where
  name := "Encoder"
  start := starting [.need "port"] (keep [("_index", .given "port"),
    ("calsim", .fixed (.integer 0))])
  operations := [
    zero "value",
    zero "type",
    silent "reset_position",
    adjusts "set_position" "RotationUnits.DEG",
    measures "position" "RotationUnits.DEG" 20,
    measures "velocity" "VelocityUnits.RPM" 20]

/-- A sensor for the distance by sound. -/
def sonar : Kind :=
  analog "Sonar" [method "distance" [.need "units"] (gives (.integer 20)), no "found_object"]

def sensorKinds : List Kind :=
  [gps, inertial, gyro, rotation, distance, switch "Limit", switch "Bumper", digitalIn, digitalOut,
    potentiometer "Potentiometer", potentiometer "PotentiometerV2", line, light, accelerometer,
    analogIn, encoder, sonar]

end RobotKit.Device
