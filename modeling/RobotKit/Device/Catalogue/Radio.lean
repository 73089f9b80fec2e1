import RobotKit.Device.Operation

/-!
# Links between robots

Messages and bytes that robots send to each other.
-/

namespace RobotKit.Device

/-- Sends a message and tells its length. -/
def sendsLength : Body := fun _ arguments => do
  return .integer (← lift (arguments.get "message").size)

def linked : Operation :=
  starting [.need "port", .need "name", .need "linktype", .may "wired" (.flag false)]
    (keep [("_index", .given "port")])

def messageLink : Kind where
  name := "MessageLink"
  start := linked
  operations := [
    yes "installed",
    yes "is_linked",
    method "send" [.need "message", .others] sendsLength,
    method "receive" [.may "timeout" (.integer 300000)] (gives (.text "test")),
    method "received" [.others] pass]

def serialLink : Kind where
  name := "SerialLink"
  start := linked
  operations := [
    yes "installed",
    yes "is_linked",
    method "send" [.need "buffer"] (gives (.integer 0)),
    method "receive" [.need "length", .may "timeout" (.integer 300000)] (gives (.bytes [1, 2, 3,
      4])),
    method "received" [.need "callback"] pass]

def radioKinds : List Kind :=
  [messageLink, serialLink]

end RobotKit.Device
