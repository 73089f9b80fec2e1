import RobotKit.Device.Operation

/-!
# Units and other constants

Each family of units is a kind that holds its units, and inside it the kind that its units are of.
Common units have short names too. Colors with a name are constants as well.
-/

namespace RobotKit.Device

structure UnitFamily where
  name : String
  /-- The units: name, number and text. -/
  units : List (String × Int × String)
  /-- Is the kind that holds the units itself a kind of units? -/
  isUnit : Bool := false

def unitFamilies : List UnitFamily := [
  { name := "PercentUnits", units := [("PERCENT", 0, "PERCENT")] },
  { name := "TimeUnits", units := [("SECONDS", 0, "SECONDS"), ("SEC", 0, "SECONDS"),
      ("MSEC", 1, "MSEC")] },
  { name := "CurrentUnits", units := [("AMP", 0, "AMP")] },
  { name := "VoltageUnits", units := [("VOLT", 0, "VOLT"), ("MV", 0, "mV")] },
  { name := "PowerUnits", units := [("WATT", 0, "WATT")] },
  { name := "TorqueUnits", units := [("NM", 0, "NM"), ("INLB", 1, "INLB")] },
  { name := "RotationUnits", units := [("DEG", 0, "DEG"), ("REV", 1, "REV"), ("RAW", 99, "RAW")] },
  { name := "VelocityUnits", units := [("PERCENT", 0, "PCT"), ("RPM", 1, "RPM"),
      ("DPS", 2, "DPS")] },
  { name := "DistanceUnits", units := [("MM", 0, "MM"), ("IN", 1, "IN"), ("CM", 2, "CM")] },
  { name := "AnalogUnits", units := [("PCT", 0, "PCT"), ("EIGHTBIT", 0, "8BIT"),
      ("TENBIT", 0, "10BIT"), ("TWELVEBIT", 0, "12BIT"), ("MV", 0, "MV")] },
  { name := "TemperatureUnits", units := [("CELSIUS", 0, "CELSIUS"),
      ("FAHRENHEIT", 0, "FAHRENHEIT")] },
  { name := "DirectionType", units := [("FORWARD", 0, "FORWARD"), ("REVERSE", 1, "REVERSE"),
      ("UNDEFINED", 2, "UNDEFINED")] },
  { name := "TurnType", units := [("LEFT", 0, "LEFT"), ("RIGHT", 1, "RIGHT"),
      ("UNDEFINED", 2, "UNDEFINED")], isUnit := true },
  { name := "BrakeType", units := [("COAST", 0, "COAST"), ("BRAKE", 1, "BRAKE"),
      ("HOLD", 2, "HOLD")] },
  { name := "GearSetting", units := [("RATIO_36_1", 0, "RATIO36_1"),
      ("RATIO_18_1", 1, "RATIO18_1"), ("RATIO_6_1", 2, "RATIO6_1")] },
  { name := "FontType", units := [("MONO20", 0, "MONO20"), ("MONO30", 1, "MONO30"),
      ("MONO40", 2, "MONO40"), ("MONO60", 3, "MONO60"), ("PROP20", 4, "PROP20"),
      ("PROP30", 5, "PROP30"), ("PROP40", 6, "PROP40"), ("PROP60", 7, "PROP60"),
      ("MONO15", 8, "MONO15"), ("MONO12", 9, "MONO12"), ("CJK16", 10, "CJK16")] },
  { name := "ThreeWireType", units := [("ANALOG_IN", 0, "ANALOG_IN"),
      ("ANALOG_OUT", 1, "ANALOG_OUT"), ("DIGITAL_IN", 2, "DIGITAL_IN"),
      ("DIGITAL_OUT", 3, "DIGITAL_OUT"), ("SWITCH", 4, "BUTTON"), ("POTENTIOMETER", 5, "POT"),
      ("LINE_SENSOR", 6, "LINE_SENSOR"), ("LIGHT_SENSOR", 7, "LIGHT_SENSOR"), ("GYRO", 8, "GYRO"),
      ("ACCELEROMETER", 9, "ACCELEROMETER"), ("MOTOR", 10, "MOTOR"), ("SERVO", 11, "SERVO"),
      ("ENCODER", 12, "ENCODER"), ("SONAR", 13, "SONAR"), ("SLEW_MOTOR", 14, "SLEW_MOTOR")] },
  { name := "ControllerType", units := [("PRIMARY", 0, "PRIMARY"), ("PARTNER", 1, "PARTNER")] },
  { name := "AxisType", units := [("XAXIS", 0, "XAXIS"), ("YAXIS", 1, "YAXIS"),
      ("ZAXIS", 2, "ZAXIS")] },
  { name := "OrientationType", units := [("ROLL", 0, "ROLL"), ("PITCH", 1, "PITCH"),
      ("YAW", 2, "YAW")] },
  { name := "ObjectSizeType", units := [("NONE", 0, "NONE"), ("SMALL", 1, "SMALL"),
      ("MEDIUM", 2, "MEDIUM"), ("LARGE", 3, "LARGE")] },
  { name := "LedStateType", units := [("OFF", 0, "OFF"), ("ON", 1, "ON")] },
  { name := "GestureType", units := [("NONE", 0, "NONE"), ("UP", 1, "UP"), ("DOWN", 2, "DOWN"),
      ("LEFT", 3, "LEFT"), ("RIGHT", 4, "RIGHT")] },
  { name := "VexlinkType", units := [("MANAGER", 1, "MANAGER"), ("WORKER", 2, "WORKER"),
      ("GENERIC", 3, "GENERIC")] }]

def shortNames : List (String × String) := [
  ("PERCENT", "PercentUnits.PERCENT"), ("FORWARD", "DirectionType.FORWARD"),
  ("REVERSE", "DirectionType.REVERSE"), ("LEFT", "TurnType.LEFT"), ("RIGHT", "TurnType.LEFT"),
  ("DEGREES", "RotationUnits.DEG"), ("TURNS", "RotationUnits.REV"),
  ("RPM", "VelocityUnits.RPM"), ("DPS", "VelocityUnits.DPS"), ("SECONDS", "TimeUnits.SECONDS"),
  ("MSEC", "TimeUnits.MSEC"), ("INCHES", "DistanceUnits.IN"), ("MM", "DistanceUnits.MM"),
  ("XAXIS", "AxisType.XAXIS"), ("YAXIS", "AxisType.YAXIS"), ("ZAXIS", "AxisType.ZAXIS"),
  ("ROLL", "OrientationType.ROLL"), ("PITCH", "OrientationType.PITCH"),
  ("YAW", "OrientationType.YAW"), ("PRIMARY", "ControllerType.PRIMARY"),
  ("PARTNER", "ControllerType.PARTNER"), ("COAST", "BrakeType.COAST"),
  ("BRAKE", "BrakeType.BRAKE"), ("HOLD", "BrakeType.HOLD"), ("VOLT", "VoltageUnits.VOLT"),
  ("MV", "VoltageUnits.MV")]

def colors : List (String × Int) := [
  ("BLACK", 0), ("WHITE", 16777215), ("RED", 16711680), ("GREEN", 65280), ("BLUE", 255),
  ("YELLOW", 16776960), ("ORANGE", 16753920), ("PURPLE", 16711935), ("CYAN", 65535),
  ("TRANSPARENT", 0)]

/-- What all units have: a number and a text. -/
def anyUnit : Kind where
  name := "vexEnum"
  start := starting [.need "value", .need "name"] (keep [("value", .given "value"),
    ("name", .given "name")])
  constants := [("value", .integer 0), ("name", .text "")]
  operations := [
    method "__str__" [] (gets "name"),
    method "__repr__" [] (gets "name")]

def UnitFamily.holder (family : UnitFamily) : Kind where
  name := family.name
  base := if family.isUnit then some "vexEnum" else none
  constants := (family.name, .kind (family.name ++ "." ++ family.name)) ::
    family.units.map fun (name, _, _) => (name, unit (family.name ++ "." ++ name))

def UnitFamily.kind (family : UnitFamily) : Kind where
  name := family.name ++ "." ++ family.name
  base := "vexEnum"

def unitKinds : List Kind :=
  anyUnit :: unitFamilies.map UnitFamily.holder ++ unitFamilies.map UnitFamily.kind

structure Constant where
  name : String
  kind : String
  attributes : Table Value

def constants : List Constant :=
  (unitFamilies.flatMap fun family => family.units.map fun (name, number, label) =>
    { name := family.name ++ "." ++ name, kind := family.kind.name,
      attributes := .ofList [("value", .integer number), ("name", .text label)] }) ++
  colors.map fun (name, number) =>
    { name := "Color." ++ name, kind := "Color.DefinedColor",
      attributes := .ofList [("value", .integer number)] }

def constant? (name : String) : Option Constant := constants.find? (·.name = name)

end RobotKit.Device
