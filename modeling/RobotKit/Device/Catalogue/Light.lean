import RobotKit.Device.Catalogue.Unit

/-!
# Colors, light and vision

What a robot sees and what it shows in color.
-/

namespace RobotKit.Device

def seesOneObject : Body := fun library _ => do
  return .tuple [← library.call (.kind "VisionObject") []]

def color : Kind where
  name := "Color"
  start := starting [.others] pass
  constants := ("DefinedColor", .kind "Color.DefinedColor") ::
    colors.map fun (name, _) => (name, unit ("Color." ++ name))
  operations := [
    method "rgb" [.others] (gives (.integer 0)),
    method "hsv" [.need "hue", .need "saturation", .need "value"] (gives (.integer 0)),
    method "web" [.need "value"] (gives (.integer 0)),
    no "is_transparent"]

def colorDefinedColor : Kind where
  name := "Color.DefinedColor"
  start := starting [.need "value"] (keep [("value", .given "value")])

def vision : Kind where
  name := "Vision"
  start := starting [.need "port", .others] (keep [("_index", .given "port"),
    ("largestObject", .made "VisionObject" [])])
  operations := [
    yes "installed",
    zero "timestamp",
    method "take_snapshot" [.need "index", .may "count" (.integer 1)] seesOneObject,
    method "largest_object" [] (gets "largestObject")]

/-- An object that a camera sees. -/
def visionObject : Kind where
  name := "VisionObject"
  start := starting [] (keep [("id", .fixed (.integer 0)), ("originX", .fixed (.integer 0)),
    ("originY", .fixed (.integer 0)), ("centerX", .fixed (.integer 0)),
    ("centerY", .fixed (.integer 0)), ("width", .fixed (.integer 0)),
    ("height", .fixed (.integer 0)), ("exists", .fixed (.flag true)),
    ("angle", .fixed (.integer 0))])

/-- What a camera looks for. -/
def signature : Kind where
  name := "Signature"
  start := starting [.need "index", .need "p0", .need "p1", .need "p2", .need "p3", .need "p4",
    .need "p5", .need "sigrange", .need "sigtype"] pass
  operations := [
    zero "id"]

/-- Several signatures together. -/
def code : Kind where
  name := "Code"
  start := starting [.need "c1", .others] pass
  operations := [
    zero "id"]

/-- A sensor for colors and gestures. -/
def optical : Kind where
  name := "Optical"
  start := atPort
  constants := [("Gesture", .kind "Optical.Gesture")]
  operations := [
    yes "installed",
    zero "timestamp",
    silent "hue",
    method "brightness" [.may "readraw" (.flag false)] pass,
    method "color" [] (gives (unit "Color.RED")),
    silent "is_near_object",
    method "set_light" [.others] pass,
    takes "set_light_power",
    method "integration_time" [.may "value" (.integer (-1))] pass,
    method "rgb" [.may "raw" (.flag false)] pass,
    takes "object_detect_threshold",
    silent "gesture_enable",
    silent "gesture_disable",
    method "get_gesture" [.may "newobject" (.flag false)] (makes "Optical.Gesture" []),
    handler "object_detected",
    handler "object_lost",
    handler "gesture_up",
    handler "gesture_down",
    handler "gesture_left",
    handler "gesture_right"]

def opticalGesture : Kind where
  name := "Optical.Gesture"
  start := starting [] (keep [("type", .fixed (unit "GestureType.NONE")),
    ("udata", .fixed (.integer 0)), ("ddata", .fixed (.integer 0)),
    ("ldata", .fixed (.integer 0)), ("rdata", .fixed (.integer 0)),
    ("count", .fixed (.integer 0))])

def led : Kind := wired "Led" [silent "on", silent "off"]

/-- A row of colored lights. -/
def addressableLed : Kind := wired "AddressableLed" [
    silent "clear",
    method "set" [.need "data", .may "offset" (.integer 0)] pass]

/-- The kinds for colors, light and vision. -/
def lightKinds : List Kind :=
  [color, colorDefinedColor, vision, visionObject, signature, code, optical, opticalGesture,
    led, addressableLed]

end RobotKit.Device
