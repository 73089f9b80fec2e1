/-!
# Dates and times

Calendar days, times of day and instants as configuration files hold them.
-/

namespace RobotKit.Config

structure Day where
  year : Nat
  month : Nat
  day : Nat
deriving DecidableEq

/-- A time of day, exact to the microsecond. -/
structure Clock where
  hour : Nat
  minute : Nat
  second : Nat
  micros : Nat
deriving DecidableEq

/-- A day, a time of day, or both; both may come with the distance from universal time in
minutes. -/
inductive Moment where
  | day (d : Day)
  | clock (c : Clock)
  | instant (d : Day) (c : Clock) (offset : Option Int)
deriving DecidableEq

/-- Has the year a twenty-ninth of February? -/
def isLeapYear (year : Nat) : Bool := (year % 4 = 0 && year % 100 ≠ 0) || year % 400 = 0

def daysIn (year month : Nat) : Nat :=
  if month = 2 then if isLeapYear year then 29 else 28
  else if [4, 6, 9, 11].contains month then 30 else 31

/-- Is this a day of the calendar, which starts with the year 1? -/
def Day.isValid (d : Day) : Bool :=
  1 ≤ d.year && 1 ≤ d.month && d.month ≤ 12 && 1 ≤ d.day && d.day ≤ daysIn d.year d.month

/-- A number in base ten with at least `width` places. -/
def padded (width n : Nat) : String :=
  let digits := Nat.toDigits 10 n
  String.ofList (List.replicate (width - digits.length) '0' ++ digits)

/-- The day as year, month and day. -/
def Day.text (d : Day) : String := padded 4 d.year ++ "-" ++ padded 2 d.month ++ "-" ++ padded 2 d.day

/-- The time of day; microseconds only if there are any. -/
def Clock.text (c : Clock) : String :=
  padded 2 c.hour ++ ":" ++ padded 2 c.minute ++ ":" ++ padded 2 c.second ++
    if c.micros = 0 then "" else "." ++ padded 6 c.micros

/-- A distance from universal time. -/
def offsetText (minutes : Int) : String :=
  (if minutes < 0 then "-" else "+") ++ padded 2 (minutes.natAbs / 60) ++ ":" ++
    padded 2 (minutes.natAbs % 60)

def Moment.text : Moment → String
  | .day d => d.text
  | .clock c => c.text
  | .instant d c offset => d.text ++ " " ++ c.text ++ (offset.map offsetText).getD ""

def Moment.kind : Moment → String
  | .day _ => "datetime.date"
  | .clock _ => "datetime.time"
  | .instant .. => "datetime.datetime"

/-- The numbers that make up a time of day, without trailing zeros after the minute. -/
def Clock.arguments (c : Clock) : List Nat :=
  [c.hour, c.minute] ++
    if c.micros ≠ 0 then [c.second, c.micros] else if c.second ≠ 0 then [c.second] else []

/-- A distance from universal time as a constructor call. -/
def offsetCall (minutes : Int) : String :=
  if minutes = 0 then "datetime.timezone.utc"
  else
    let seconds := toString (minutes.natAbs * 60)
    let span := if minutes > 0 then "seconds=" ++ seconds
      else "days=-1, seconds=" ++ toString (86400 - minutes.natAbs * 60)
    "datetime.timezone(datetime.timedelta(" ++ span ++ "))"

/-- A moment as a constructor call, the form in which it is shown inside a list. -/
def Moment.call (m : Moment) : String :=
  let arguments : List String := match m with
    | .day d => [d.year, d.month, d.day].map toString
    | .clock c => c.arguments.map toString
    | .instant d c offset => ([d.year, d.month, d.day] ++ c.arguments).map toString ++
        (offset.map fun minutes => "tzinfo=" ++ offsetCall minutes).toList
  m.kind ++ "(" ++ ", ".intercalate arguments ++ ")"

end RobotKit.Config
