import RobotKit.Resource.Scripts
import RobotKit.Resource.Template

/-!
# Files that come with the tool
-/

namespace RobotKit

/-- A file that comes with the tool. -/
inductive Resource where
  | deviceLibrary
  | packageStart
  | blank
  | template (value : Resource.Template)
deriving DecidableEq, Inhabited

namespace Resource

/-- All files that come with the tool. -/
def all : List Resource := [.deviceLibrary, .packageStart, .blank] ++ Template.all.map .template

/-- The path of the file below the directory of such files. -/
def path : Resource → String
  | .deviceLibrary => "vex.py"
  | .packageStart => "pkg_template.py"
  | .blank => "template.py"
  | .template value => "templates/" ++ value.name ++ ".py"

def script (resource : Resource) : String := scripts.get.getD (all.idxOf resource) ""

end Resource

end RobotKit
