import RobotKit.Device.Bench
import RobotKit.Program.Evaluate
import RobotKit.Resource.Basic
import RobotKit.Script.Reading.Statement

/-!
# Runs of a robot program

A program runs once as a whole; after that its functions can be called one by one. Each run starts
with an empty log and may pause a certain number of times.
-/

namespace RobotKit.Program

open RobotKit.Device

inductive Ending where
  | done (result : Value)
  /-- The program paused once too often. -/
  | stopped
  | failed (fault : Fault)

/-- The ending that an outcome stands for. -/
def Ending.ofOutcome : Except Fault Value → Ending
  | .ok result => .done result
  | .error .pausedOut => .stopped
  | .error fault => .failed fault

/-- Carries out an action as a run of its own. -/
def runAction (pauses : Nat) (action : Run Value) (state : State) : Ending × State :=
  let world := { state.world with log := #[], pausesLeft := some pauses }
  let (outcome, state) := action.run.run { state with world, locals := none }
  (.ofOutcome outcome, state)

/-- A depth that a run with this many pauses does not exceed, if each round of a loop pauses. -/
def depthFor (pauses : Nat) : Nat := pauses + 10000

def runScript (pauses : Nat) (body : List Script.Stmt) (state : State) : Ending × State :=
  runAction pauses (do
    let _ ← carryOutAll (depthFor pauses) body
    return .nothing) state

/-- Calls the function of a program with this name. The arguments can refer to the global names
of the program and to the library. -/
def runFunction (pauses : Nat) (name : String) (arguments : List Term) (state : State) :
    Ending × State :=
  runAction pauses (do
    match state.global? name with
    | some value =>
      let bench : Bench := ⟨.current, state.globals, state.world⟩
      callValue (depthFor pauses) value (← onDevice (bench.terms arguments)) []
    | none => throw .missing) state

/-- The script of the program at this path below the files that come with the tool. -/
def script? (path : String) : Option (List Script.Stmt) := do
  let resource ← Resource.all.find? fun resource => resource.path = path ++ ".py"
  (Script.parse resource.script).toOption

/-- The names that the program defined itself, with their values. -/
def State.ownGlobals (state : State) : List (String × Value) :=
  state.globals.entries.filter fun entry => !entry.1.startsWith "__"

end RobotKit.Program
