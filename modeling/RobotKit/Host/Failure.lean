import RobotKit.Config.Reading
import RobotKit.Console.Wrap
import RobotKit.Files.Tree
import RobotKit.Script.Writing.Literal
import RobotKit.Text.Utf8

/-!
# Failures

The causes for which an action on the host ends early, and the wording of each.
-/

namespace RobotKit.Host

open RobotKit.Files RobotKit.Text

/-- A value of a kind that does not go with what is done to it. -/
inductive KindError where
  /-- A program argument has to be a text. -/
  | argument (kind : String)
  /-- Only texts can be appended to a path. -/
  | pathPart (kind : String)
  /-- Two values cannot be joined. -/
  | join (left right : String)
  /-- Only tables have entries to set. -/
  | notTable (kind : String)
  /-- Nothing can be looked up in a missing content type. -/
  | noContentType
  /-- A text is needed. -/
  | notText (kind : String)
deriving DecidableEq

def KindError.message : KindError → String
  | .argument kind => "expected str, bytes or os.PathLike object, not " ++ kind
  | .pathPart kind => "unsupported operand type(s) for /: 'PosixPath' and '" ++ kind ++ "'"
  | .join "str" right => "can only concatenate str (not \"" ++ right ++ "\") to str"
  | .join "list" right => "can only concatenate list (not \"" ++ right ++ "\") to list"
  | .join left right => "unsupported operand type(s) for +: '" ++ left ++ "' and '" ++ right ++ "'"
  | .notTable "list" => "list indices must be integers or slices, not str"
  | .notTable kind => "'" ++ kind ++ "' object does not support item assignment"
  | .noContentType => "argument of type 'NoneType' is not iterable"
  | .notText kind => "expected string or bytes-like object, got '" ++ kind ++ "'"

/-- Why an action ended early. -/
inductive Failure where
  /-- A file operation failed. -/
  | file (error : FileError)
  /-- A program could not be started in a directory. -/
  | workingDirectory (fault : Fault) (path : String)
  /-- There is no project file. -/
  | noProjectFile
  /-- The project file lacks a name or a slot. -/
  | malformedProjectFile
  /-- The installer of the uploader is missing. -/
  | noInstaller (path : String)
  /-- A text is neither a directory nor an address. -/
  | notDirectory (text : String)
  /-- A file is no text. -/
  | encoding (error : DecodeError)
  /-- A configuration file cannot be read. -/
  | config (error : Config.ReadError)
  /-- A value of the configuration has no entries. -/
  | noEntries (kind : String)
  /-- A value cannot be written. -/
  | write (error : Script.WriteError)
  /-- A text for the console is not well formed. -/
  | markup (error : Console.MarkupError)
  /-- A program ended with a status other than zero. -/
  | command (words : List String) (status : Int)
  /-- A value has the wrong kind. -/
  | wrongKind (error : KindError)
  /-- A package identifier has not exactly two parts. -/
  | identifierParts (count : Nat)
  /-- The sources of a package are missing. -/
  | packageMissing (name path : String)
  /-- A project is not a package. -/
  | notPackage (path : String)
  /-- A project has no operation for packages. -/
  | noRegistration
  /-- The whole program ends. -/
  | exit (status : Nat)

/-- A command line as a message shows it. -/
def showWords (words : List String) : String := "[" ++ ", ".intercalate (words.map quoteString) ++ "]"

def Failure.message : Failure → String
  | .file e => e.message
  | .workingDirectory fault path =>
    "[Errno " ++ toString fault.describe.1 ++ "] " ++ fault.describe.2 ++ ": PosixPath(" ++
      quoteString path ++ ")"
  | .noProjectFile => "Cannot find 'dishpy.toml' in current directory"
  | .malformedProjectFile => "Malformed 'dishpy.toml' file"
  | .noInstaller path => "Download script not found: " ++ path
  | .notDirectory text => text
  | .encoding e => e.message
  | .config e => e.message
  | .noEntries kind => "'" ++ kind ++ "' object has no attribute 'get'"
  | .write e => e.message
  | .markup e => e.message
  | .command words status =>
    "Command '" ++ showWords words ++ "' returned non-zero exit status " ++ toString status ++ "."
  | .wrongKind e => e.message
  | .identifierParts count =>
    if count < 2 then "not enough values to unpack (expected 2, got " ++ toString count ++ ")"
    else "too many values to unpack (expected 2)"
  | .packageMissing name path => "Package '" ++ name ++ "' in " ++ path ++ " not found"
  | .notPackage path => path ++ " is a DishPy project, not a package"
  | .noRegistration => "'Project' object has no attribute 'register'"
  | .exit status => toString status

/-- Does the failure end the whole program, so that no command reports it? -/
def Failure.isExit : Failure → Bool
  | .exit _ => true
  | _ => false

end RobotKit.Host
