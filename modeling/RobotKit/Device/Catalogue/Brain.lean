import RobotKit.Device.Operation

/-!
# The brain

The computer of the robot with its screen, battery, card and ports.
-/

namespace RobotKit.Device

def ports : Kind where
  name := "Ports"
  constants := (List.range 22).map fun (port : Nat) =>
    ("PORT" ++ toString (port + 1), .integer port)

def brain : Kind where
  name := "Brain"
  start := starting [.others] (keep [("_index", .fixed (.integer 31)),
    ("screen", .made "Brain.Lcd" []), ("timer", .made "Timer" []),
    ("battery", .made "Brain.Battery" []), ("sdcard", .made "Brain.Sdcard" []),
    ("three_wire_port", .made "Triport" [.fixed (.integer 21)])])
  constants := [("Lcd", .kind "Brain.Lcd"), ("Battery", .kind "Brain.Battery"),
    ("Sdcard", .kind "Brain.Sdcard")]

def brainLcd : Kind where
  name := "Brain.Lcd"
  start := starting [] (keep [("_row", .fixed (.integer 0)), ("_col", .fixed (.integer 0)),
    ("_originx", .fixed (.integer 0)), ("_originy", .fixed (.integer 0))])
  operations := [
    method "set_cursor" [.need "row", .need "col"] (keep [("_row", .given "row"),
      ("_col", .given "col")]),
    method "column" [] (gets "_col"),
    method "row" [] (gets "_row"),
    method "set_origin" [.need "x", .need "y"] (keep [("_originx", .given "x"),
      ("_originy", .given "y")]),
    method "set_font" [.need "fontname"] pass,
    method "set_pen_width" [.need "width"] pass,
    method "set_pen_color" [.need "color"] pass,
    method "set_fill_color" [.need "color"] pass,
    method "clear_screen" [.may "color" (unit "Color.BLACK")] pass,
    method "clear_line" [.may "number" .nothing, .may "color" (unit "Color.BLACK")] pass,
    method "clear_row" [.may "number" .nothing, .may "color" (unit "Color.BLACK")] pass,
    silent "new_line",
    silent "next_row",
    method "draw_pixel" [.need "x", .need "y"] pass,
    method "draw_line" [.need "x1", .need "y1", .need "x2", .need "y2"] pass,
    method "draw_rectangle" [.need "x", .need "y", .need "width", .need "height",
      .may "color" .nothing] pass,
    method "draw_circle" [.need "x", .need "y", .need "radius", .may "color" .nothing] pass,
    method "get_string_width" [.others] (gives (.integer 0)),
    method "get_string_height" [.others] (gives (.integer 0)),
    method "print" [.others, .otherNames] pass,
    method "print_at" [.others, .otherNames] pass,
    handler "pressed",
    handler "released",
    zero "x_position",
    zero "y_position",
    no "pressing",
    method "draw_image_from_file" [.need "filename", .need "x", .need "y"] pass,
    yes "render",
    method "set_clip_region" [.need "x", .need "y", .need "width", .need "height"] pass]

def brainBattery : Kind where
  name := "Brain.Battery"
  start := starting [] pass
  operations := [
    method "capacity" [] (gives (.integer 100)),
    measures "temperature" "PercentUnits.PERCENT" 20,
    measures "voltage" "VoltageUnits.MV" 12800,
    measures "current" "CurrentUnits.AMP" 1]

def brainSdcard : Kind where
  name := "Brain.Sdcard"
  start := starting [] pass
  operations := [
    yes "is_inserted",
    method "filesize" [.need "filename"] (gives (.integer 0)),
    method "loadfile" [.need "filename", .others] (gives (.bytes [0])),
    method "savefile" [.need "filename", .others] (gives (.integer 0)),
    method "appendfile" [.need "filename", .others] (gives (.integer 0)),
    method "size" [.need "filename"] (gives (.integer 0)),
    method "exists" [.others] (gives (.flag false))]

/-- The eight ports for three-wire devices. -/
def triport : Kind where
  name := "Triport"
  start := starting [.need "port"] (keep (("_index", .given "port") ::
    ["a", "b", "c", "d", "e", "f", "g", "h"].zipIdx.map fun (name, index) =>
      (name, .made "Triport.TriportPort" [.given "port", .fixed (.integer index)])))
  constants := [("TriportPort", .kind "Triport.TriportPort")]
  operations := [
    method "index" [] (gets "_index"),
    yes "installed",
    zero "timestamp"]

/-- One port for a three-wire device. -/
def triportTriportPort : Kind where
  name := "Triport.TriportPort"
  start := starting [.need "port", .need "index"] (keep [("_index", .given "port"),
    ("_id", .fixed (.routine "" "id" none))])
  operations := [
    method "value" [.others] (gives (.integer 0)),
    method "type" [.others] (gives (.integer 0)),
    handler "pressed",
    handler "released",
    handler "changed"]

def brainKinds : List Kind :=
  [ports, brain, brainLcd, brainBattery, brainSdcard, triport, triportTriportPort]

end RobotKit.Device
