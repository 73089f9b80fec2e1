/-!
# Starter programs

The programs that a new robot project can start from.
-/

namespace RobotKit.Resource

/-- A starter program for a robot project. -/
inductive Template where
  | clawbot
  | clawbotControllerTank
  | competitionTemplate
  | driveToLocationGps
  | drivetrainSensing
  | empty
  | limitBumperSensing
  | rightArcadeControl
  | splitArcadeControl
  | usingThreads
deriving DecidableEq, Inhabited

/-- All starter programs in the order of their names. -/
def Template.all : List Template :=
  [.clawbot, .clawbotControllerTank, .competitionTemplate, .driveToLocationGps,
    .drivetrainSensing, .empty, .limitBumperSensing, .rightArcadeControl,
    .splitArcadeControl, .usingThreads]

/-- The name by which a starter program is chosen. -/
def Template.name : Template → String
  | .clawbot => "clawbot"
  | .clawbotControllerTank => "clawbot_controller_tank"
  | .competitionTemplate => "competition_template"
  | .driveToLocationGps => "drive_to_location_gps"
  | .drivetrainSensing => "drivetrain_sensing"
  | .empty => "empty"
  | .limitBumperSensing => "limit_bumper_sensing"
  | .rightArcadeControl => "right_arcade_control"
  | .splitArcadeControl => "split_arcade_control"
  | .usingThreads => "using_threads"

end RobotKit.Resource
