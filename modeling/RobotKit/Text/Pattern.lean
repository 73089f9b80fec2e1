/-!
# Patterns

A pattern describes a set of texts. Matching a pattern against the start of a text gives every
rest that can be left, so that a choice made early never hides a match.
-/

namespace RobotKit.Text

inductive Pattern where
  /-- One character of a class. -/
  | one (p : Char → Bool)
  /-- The empty text. -/
  | nothing
  /-- One pattern after the other. -/
  | seq (a b : Pattern)
  /-- One of two patterns. -/
  | either (a b : Pattern)
  /-- A pattern any number of times. -/
  | many (a : Pattern)

namespace Pattern

/-- Adds the rests that are not known yet; rests of one text are told apart by their lengths. -/
def addRests (known new : List (List Char)) : List (List Char) :=
  new.foldl
    (fun known rest => if known.any (·.length = rest.length) then known else known ++ [rest]) known

/-- Applies a step to all rests until nothing new is found, at most `fuel` times. -/
def closure (step : List Char → List (List Char)) : Nat → List (List Char) → List (List Char)
  | 0, rests => rests
  | fuel + 1, rests =>
    let more := addRests rests (rests.flatMap step)
    if more.length = rests.length then rests else closure step fuel more

/-- The rests that matching the start of a text can leave. -/
def rests : Pattern → List Char → List (List Char)
  | .one p, text => match text with
    | c :: rest => if p c then [rest] else []
    | [] => []
  | .nothing, text => [text]
  | .seq a b, text => addRests [] ((a.rests text).flatMap b.rests)
  | .either a b, text => addRests (a.rests text) (b.rests text)
  | .many a, text => closure a.rests text.length [text]

def matches? (a : Pattern) (text : String) : Bool := (a.rests text.toList).any (·.isEmpty)

/-- Several patterns one after the other. -/
def all : List Pattern → Pattern
  | [] => .nothing
  | a :: rest => .seq a (all rest)

/-- One of several patterns; none of them if there are none. -/
def any : List Pattern → Pattern
  | [] => .one fun _ => false
  | a :: rest => .either a (any rest)

def maybe (a : Pattern) : Pattern := .either a .nothing

def oneOrMore (a : Pattern) : Pattern := .seq a (.many a)

/-- A pattern `low` to `low + extra` times. -/
def times (low extra : Nat) (a : Pattern) : Pattern :=
  .seq (all (List.replicate low a)) (all (List.replicate extra (maybe a)))

/-- A fixed text; case is of no matter. -/
def word (text : String) : Pattern :=
  all (text.toList.map fun c => .one fun d => d.toLower = c.toLower)

end Pattern

end RobotKit.Text
