import RobotKit.Device.Drive
import RobotKit.Device.MotorGroup

/-!
# Motors and drive trains

What moves the robot and its arms.
-/

namespace RobotKit.Device

def motor : Kind where
  name := "Motor"
  start := starting [.need "port", .others] (keep [("_index", .given "port"),
    ("_timeout", .fixed (.integer 10000)), ("_velocity", .fixed (.integer 50)),
    ("_mode", .fixed (unit "BrakeType.COAST")), ("_brakeMode", .fixed (unit "BrakeType.COAST")),
    ("_spinMode", .fixed (.flag false))])
  operations := [
    yes "installed",
    zero "timestamp",
    method "set_velocity" [.need "value", inUnits "VelocityUnits.RPM"]
      (keep [("_velocity", .given "value")]),
    takes "set_reversed",
    takes "set_stopping",
    silent "reset_position",
    adjusts "set_position" "RotationUnits.DEG",
    method "set_timeout" [.need "value", inUnits "TimeUnits.MSEC"]
      (keep [("_timeout", .given "value")]),
    method "get_timeout" [] (gets "_timeout"),
    method "spin" [.need "direction", .others, .otherNames] pass,
    method "spin_to_position" [.need "rotation", .others, .otherNames] pass,
    method "spin_for" [.need "direction", .need "rot_or_time", .others, .otherNames] pass,
    yes "is_spinning",
    yes "is_done",
    no "is_spinning_mode",
    method "stop" [.may "mode" .nothing] pass,
    method "set_max_torque" [.need "value", .need "units"] pass,
    method "direction" [] (gives (unit "DirectionType.FORWARD")),
    method "position" [.others] (gives (.integer 20)),
    method "velocity" [.others] (gives (.integer 2)),
    method "current" [.others] (gives (.integer 1)),
    method "power" [.others] (gives (.integer 1)),
    method "torque" [.others] (gives (.integer 1)),
    method "efficiency" [.others] (gives (.integer 1)),
    method "temperature" [.others] (gives (.integer 1)),
    method "command" [.others] (gets "_velocity")]

/-- A motor with a controller for three wires. -/
def wireMotor (name : String) : Kind where
  name := name
  start := starting [.need "port", .may "reverse_flag" (.flag false)]
    (keep [("_index", .given "port"), ("_velocity", .fixed (.integer 50))])
  operations := [
    zero "value",
    zero "type",
    method "set_velocity" [.need "value", inUnits "VelocityUnits.RPM"]
      (keep [("_velocity", .given "value")]),
    takes "set_reversed",
    method "spin" [.need "direction", .may "velocity" .nothing, .may "units" .nothing] pass,
    silent "stop"]

/-- How fast to move, and whether to wait for the end. -/
def pace : List Parameter :=
  [.may "velocity" .nothing, .may "units_v" (unit "VelocityUnits.RPM"), .may "wait" (.flag true)]

/-- A measurement of the first motor of a group. -/
def asksFirst (name units : String) : Operation :=
  method name [inUnits units] (MotorGroup.firstMotor name ["units"])

def motorGroup : Kind where
  name := "MotorGroup"
  start := starting [.others] MotorGroup.begin
  operations := [
    method "count" [] MotorGroup.count,
    method "set_velocity" [.need "velocity", .may "units" .nothing]
      (MotorGroup.eachMotor "set_velocity" ["velocity", "units"]),
    method "set_stopping" [.may "mode" (unit "BrakeType.COAST")]
      (MotorGroup.eachMotor "set_stopping" ["mode"]),
    method "reset_position" [] (MotorGroup.eachMotor "reset_position" []),
    method "set_position" [.need "value", .may "units" .nothing]
      (MotorGroup.eachMotor "set_position" ["value", "units"]),
    method "set_timeout" [.need "timeout", inUnits "TimeUnits.MSEC"] MotorGroup.setTimeout,
    method "spin" [.need "direction", .may "velocity" .nothing, inUnits "VelocityUnits.RPM"]
      (MotorGroup.eachMotor "spin" ["direction", "velocity", "units"]),
    method "spin_to_position" (.need "rotation" :: inUnits "RotationUnits.DEG" :: pace)
      MotorGroup.spinToPosition,
    method "_MotorGroup__spin_for_distance" [.need "direction", .need "rotation", .need "units",
      .need "velocity", .need "units_v", .need "wait"] MotorGroup.spinForDistance,
    method "_MotorGroup__spin_for_time" [.need "direction", .need "time", .need "units",
      .need "velocity", .need "units_v"] MotorGroup.spinForTime,
    method "spin_for" (.need "direction" :: .need "rotation" :: inUnits "RotationUnits.DEG" :: pace)
      MotorGroup.spinFor,
    method "is_spinning" [] MotorGroup.isSpinning,
    method "is_spinning_mode" [] MotorGroup.isSpinningMode,
    method "is_done" [] MotorGroup.isDone,
    method "stop" [.may "mode" .nothing] (MotorGroup.eachMotor "stop" ["mode"]),
    method "set_max_torque" [.need "value", inUnits "TorqueUnits.NM"]
      (MotorGroup.eachMotor "set_max_torque" ["value", "units"]),
    method "direction" [] (MotorGroup.firstMotor "direction" []),
    asksFirst "position" "RotationUnits.DEG",
    asksFirst "velocity" "VelocityUnits.RPM",
    method "current" [inUnits "CurrentUnits.AMP"] MotorGroup.current,
    asksFirst "power" "PowerUnits.WATT",
    asksFirst "torque" "TorqueUnits.NM",
    asksFirst "efficiency" "PercentUnits.PERCENT",
    asksFirst "temperature" "TemperatureUnits.CELSIUS",
    method "_MotorGroup__waitForCompletionAll" [] MotorGroup.waitForCompletion]

/-- The measures of a drive train. -/
def driveSizes : List Parameter :=
  [.may "wheelTravel" (.integer 300), .may "trackWidth" (.integer 320),
    .may "wheelBase" (.integer 320), inUnits "DistanceUnits.MM",
    .may "externalGearRatio" (.decimal { bits := 0x3ff0000000000000 })]

def driveTrain : Kind where
  name := "DriveTrain"
  start := starting (.need "lm" :: .need "rm" :: driveSizes) Drive.begin
  operations := [
    method "set_drive_velocity" [.need "velocity", inUnits "VelocityUnits.RPM"] pass,
    method "set_turn_velocity" [.need "velocity", inUnits "VelocityUnits.RPM"] pass,
    method "set_stopping" [.may "mode" (unit "BrakeType.COAST")] pass,
    method "set_timeout" [.need "timeout", inUnits "TimeUnits.MSEC"] pass,
    method "get_timeout" [] (gives (.integer 1000)),
    method "drive" [.need "direction", .may "velocity" .nothing, inUnits "VelocityUnits.RPM"] pass,
    method "drive_for" (.need "direction" :: .need "distance" :: inUnits "DistanceUnits.IN" :: pace)
      pass,
    method "turn" [.need "direction", .may "velocity" .nothing, inUnits "VelocityUnits.RPM"] pass,
    method "turn_for" (.need "direction" :: .need "angle" :: inUnits "RotationUnits.DEG" :: pace)
      pass,
    no "is_moving",
    yes "is_done",
    method "stop" [.may "mode" .nothing] pass,
    measures "velocity" "VelocityUnits.RPM" 0,
    measures "current" "CurrentUnits.AMP" 0,
    measures "power" "PowerUnits.WATT" 0,
    measures "torque" "TorqueUnits.NM" 0,
    measures "efficiency" "PercentUnits.PERCENT" 0,
    measures "temperature" "TemperatureUnits.CELSIUS" 0]

/-- A drive train that knows its heading. -/
def smartDrive : Kind where
  name := "SmartDrive"
  base := "DriveTrain"
  start := starting (.need "lm" :: .need "rm" :: .need "g" :: driveSizes) Drive.beginSmart
  operations := [
    takes "set_turn_threshold",
    takes "set_turn_constant",
    takes "set_turn_direction_reverse",
    adjusts "set_heading" "RotationUnits.DEG",
    measures "heading" "RotationUnits.DEG" 0,
    adjusts "set_rotation" "RotationUnits.DEG",
    method "rotation" [inUnits "RotationUnits.DEG"] Drive.sensorRotation,
    method "turn_to_heading" (.need "angle" :: inUnits "RotationUnits.DEG" :: pace)
      (gives (.flag true)),
    method "turn_to_rotation" (.need "angle" :: inUnits "RotationUnits.DEG" :: pace)
      (gives (.flag true)),
    method "turn_for" (.need "direction" :: .need "angle" :: inUnits "RotationUnits.DEG" :: pace)
      (gives (.flag true)),
    no "is_turning",
    no "is_moving"]

def servo : Kind := wired "Servo" [adjusts "set_position" "RotationUnits.DEG"]

def pwm : Kind := wired "Pwm" [adjusts "state" "PercentUnits.PERCENT"]

def pneumatics : Kind := wired "Pneumatics" [silent "open", silent "close"]

def electromagnet : Kind where
  name := "Electromagnet"
  start := starting [.need "port"] (keep [("_index", .given "port"),
    ("_power", .fixed (.integer 50))])
  operations := [
    yes "installed",
    zero "timestamp",
    method "set_power" [.need "value"] (keep [("_power", .given "value")]),
    method "pickup" [.may "duration" (.integer 1000), inUnits "TimeUnits.MSEC",
      .may "power" (.integer 50)] pass,
    method "drop" [.may "duration" (.integer 1000), inUnits "TimeUnits.MSEC",
      .may "power" (.integer 50)] pass,
    method "temperature" [.others] (gives (.integer 20))]

def motionKinds : List Kind :=
  [motor, wireMotor "Motor29", wireMotor "MotorVictor", motorGroup, driveTrain, smartDrive, servo,
    pwm, pneumatics, electromagnet]

end RobotKit.Device
