import RobotKit.Files.Tree
import RobotKit.Link.Combine
import RobotKit.Script.Reading.Statement

/-!
# Projects on disk

A project is found in a tree of files by the location of its entry file: the directory of that
file is the project directory, and every script below it belongs to the project.
-/

namespace RobotKit.Link

open RobotKit.Files

/-- The script in a file, if it is one. -/
def scriptIn : Content → Option (List Script.Stmt)
  | .text value => (Script.parse value).toOption
  | .resource value => (Script.parse value.script).toOption
  | _ => none

/-- The script files below a directory in the order in which they are met. -/
def scriptFiles (root : Node) (directory : Location) : List ScriptFile :=
  match root.find? directory with
  | some (.dir entries) =>
    ((Node.dir entries).walk []).filterMap fun (location, _) =>
      if isScriptName (location.getLast?.getD "") then
        some ⟨"/".intercalate location, Location.text (directory ++ location)⟩
      else none
  | _ => []

/-- The script at a path in a tree of files. -/
def readScript (root : Node) : Reads := fun file =>
  match root.find? (Path.ofString file).parts with
  | some (.file content _) => scriptIn content
  | _ => none

def projectAt (root : Node) (entry : Location) : Project where
  directory := entry.dropLast
  entry := Location.text entry
  files := scriptFiles root entry.dropLast
  read := readScript root

end RobotKit.Link
