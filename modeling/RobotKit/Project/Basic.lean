import RobotKit.Config.Value
import RobotKit.Files.Path

/-!
# Robot projects

A robot project is a directory with a project file, a directory of sources that holds the entry
file and the device library, and a directory for the combined script. A package is a project
whose sources include a directory that other projects can use.
-/

namespace RobotKit

open RobotKit.Files

/-- A value that a project file may give. -/
abbrev Setting := Option Config.Value

namespace Setting

def kind (s : Setting) : String := (s.map (·.kind)).getD "NoneType"

def plain (s : Setting) : Except Script.WriteError String := (s.map (·.plain)).getD (.ok "None")

/-- The setting, or a default if it does not count as given. -/
def orDefault (s : Setting) (default : Config.Value) : Config.Value :=
  match s with
  | some value => if value.isGiven then value else default
  | none => default

end Setting

/-- The name and the version of a package. -/
structure PackageInfo where
  name : Setting
  version : Setting

structure Project where
  directory : Path
  name : Setting
  slot : Setting
  /-- The package that the project is, if it is one. -/
  package : Option PackageInfo

namespace Project

def fileName : String := "dishpy.toml"

def sourcesIn (directory : Path) : Path := directory.child "src"

def entryIn (directory : Path) : Path := (sourcesIn directory).child "main.py"

def libraryIn (directory : Path) : Path := (sourcesIn directory).child "vex"

def libraryScriptIn (directory : Path) : Path := (libraryIn directory).child "__init__.py"

/-- The directory for the combined script. -/
def outputIn (directory : Path) : Path := directory.child ".out"

/-- The parts that a complete project has besides its project file. -/
def partsIn (directory : Path) : List Path :=
  [sourcesIn directory, entryIn directory, libraryIn directory, libraryScriptIn directory,
    outputIn directory]

/-- The file that holds the combined script. -/
def outputFile (p : Project) : Path := (outputIn p.directory).child "main.py"

end Project

end RobotKit
