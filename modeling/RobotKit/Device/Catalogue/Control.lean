import RobotKit.Device.Operation

/-!
# Control of a program

What starts, times and steers a robot program: the competition, the controller, events, threads
and timers.
-/

namespace RobotKit.Device

/-- Starts a mask from one value, or from two that are joined. -/
def joinsMasks : Body := fun _ arguments => do
  let mask := arguments.get "self"
  match arguments.others with
  | [] => throw .index
  | [value] => setAttribute mask "value" value
  | high :: low :: _ => setAttribute mask "value" (← lift (high.joinMasks low))
  setAttribute mask "name" (.text "EVENTMASK")
  return .nothing

/-- The functions that a competition starts. -/
def competition : Kind where
  name := "Competition"
  start := starting [.need "driver", .need "autonomous"] (keep [("_driver_cb", .given "driver"),
    ("_auton_cb", .given "autonomous"), ("_driver_thread", .fixed .nothing),
    ("_auton_thread", .fixed .nothing)])
  operations := [
    function "is_enabled" [] (gives (.flag true)),
    function "is_driver_control" [] (gives (.flag true)),
    loose "is_autonomous" (gives (.flag false)),
    loose "is_competition_switch" (gives (.flag true)),
    loose "is_field_control" (gives (.flag false))]

/-- The hand-held controller, with four axes, twelve buttons and a screen. -/
def controller : Kind where
  name := "Controller"
  start := starting [.others] (keep (
    ["axis1", "axis2", "axis3", "axis4"].map (·, .made "Controller.Axis" []) ++
    ["buttonL1", "buttonL2", "buttonR1", "buttonR2", "buttonUp", "buttonDown", "buttonLeft",
      "buttonRight", "buttonA", "buttonB", "buttonX", "buttonY"].map
        (·, .made "Controller.Button" []) ++
    [("screen", .made "Controller.Lcd" [])]))
  constants := [("Axis", .kind "Controller.Axis"), ("Button", .kind "Controller.Button"),
    ("Lcd", .kind "Controller.Lcd")]
  operations := [
    method "rumble" [.need "pattern"] (gives (.integer 0))]

def controllerAxis : Kind where
  name := "Controller.Axis"
  start := starting [.others] pass
  operations := [
    zero "value",
    zero "position",
    handler "changed"]

def controllerButton : Kind where
  name := "Controller.Button"
  start := starting [.others] pass
  operations := [
    no "pressing",
    handler "pressed",
    handler "released"]

def controllerLcd : Kind where
  name := "Controller.Lcd"
  start := starting [.others] (keep [("_row", .fixed (.integer 0)),
    ("_col", .fixed (.integer 0))])
  operations := [
    method "set_cursor" [.need "row", .need "col"] (keep [("_row", .given "row"),
      ("_col", .given "col")]),
    method "column" [] (gets "_col"),
    method "row" [] (gets "_row"),
    method "print" [.others] pass,
    silent "clear_screen",
    method "clear_line" [.need "number"] pass,
    method "clear_row" [.need "number"] pass,
    silent "new_line",
    silent "next_row"]

/-- A function that waits for an event. -/
def event : Kind where
  name := "Event"
  start := starting [.may "callback" .nothing, .may "arg" (.tuple [])] pass
  operations := [
    method "__call__" [.need "callback", .may "arg" (.tuple [])] pass,
    method "set" [.need "callback", .may "arg" (.tuple [])] pass,
    silent "broadcast",
    method "broadcast_and_wait" [.may "timeout" (.integer 60000)] pass]

def eventMask : Kind where
  name := "EventMask"
  start := starting [.others] joinsMasks

/-- A function that runs beside the program. -/
def thread : Kind where
  name := "Thread"
  start := starting [.need "callback", .may "arg" (.tuple [])] pass
  operations := [
    silent "stop",
    function "sleep_for" [.need "duration", inUnits "TimeUnits.MSEC"] pass]

def timer : Kind where
  name := "Timer"
  start := starting [] pass
  operations := [
    measures "time" "TimeUnits.MSEC" 0,
    method "value" [] (gives (.decimal { bits := 0x0 })),
    silent "clear",
    silent "reset",
    zero "system",
    zero "system_high_res",
    method "event" [.need "callback", .need "delay", .may "arg" (.tuple [])] (gives (.integer 0))]

def controlKinds : List Kind :=
  [competition, controller, controllerAxis, controllerButton, controllerLcd, event, eventMask,
    thread, timer]

end RobotKit.Device
