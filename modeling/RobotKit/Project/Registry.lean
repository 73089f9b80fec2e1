import RobotKit.Host.Programs
import RobotKit.Project.Open
import RobotKit.Text.Address
import RobotKit.Text.Digest
import RobotKit.Text.Search

/-!
# The package registry

Registered packages are archives in the cache, named by package name and version. A project uses
a package by unpacking its archive into the sources.
-/

namespace RobotKit.Registry

open RobotKit.Config RobotKit.Files RobotKit.Host RobotKit.Project

def directory : Action Path := do return (← surroundings).cache.child "packages"

/-- The directory of the archives, which is made if it is missing. -/
def ensuredDirectory : Action Path := do
  let path ← directory
  ensureDirectory path
  return path

/-- The identifiers of all registered packages. -/
def identifiers : Action (List String) := do
  let names ← listDirectory (← ensuredDirectory)
  return (names.filter fun name => suffixOf name = ".zip").map fun name =>
    String.ofList (name.toList.dropLast.dropLast.dropLast.dropLast)

def joined (left : Setting) (right : Setting) : Action String :=
  match left, right with
  | some (.text a), some (.text b) => return a ++ b
  | left, right => fail (.wrongKind (.join left.kind right.kind))

/-- The identifier of a package: its name and its version. -/
def identifier (info : PackageInfo) : Action String := do
  let start ← joined info.name (some (.text ":"))
  joined (some (.text start)) info.version

/-- Registers a package: its sources become the archive of its identifier. -/
def register (p : Project) : Action Unit := do
  match p.package with
  | none => fail .noRegistration
  | some info =>
    let archives ← ensuredDirectory
    let id ← identifier info
    let archive := archives.child (id ++ ".zip")
    if ← fileExists archive then removeFile archive
    let sources ← childSetting (sourcesIn p.directory) info.name
    if !(← fileExists sources) then
      fail (.packageMissing (← written info.name.plain) sources.toString)
    pack archive sources
    say ("✨ [green]Registered package [bold cyan]" ++ id ++ "[/bold cyan][/green]")

/-- Notes in the project file that a project uses a package. -/
def addDependency (name version : String) (config : Entries) : Except KindError Entries :=
  match config.lookup "dependencies" with
  | none => .ok (config ++ [("dependencies", .table [(name, .text version)])])
  | some (.table entries) =>
    .ok (Table.insertEntry "dependencies"
      (.table (Table.insertEntry name (.text version) entries)) config)
  | some value => .error (.notTable value.kind)

/-- The parts of an identifier between its colons. -/
def identifierParts (id : String) : List String := (splitAtChar ':' id.toList).map String.ofList

/-- Unpacks a registered package below a directory of a project and notes it in the project
file. -/
def unpackInto (p : Project) (id : String) (target : Path) : Action Unit := do
  let archive := (← directory).child (id ++ ".zip")
  match identifierParts id with
  | [name, version] =>
    unpack archive (target.child name)
    let config ← readConfig p.directory
    match addDependency name version config with
    | .error e => fail (.wrongKind e)
    | .ok config => writeConfig p.directory config
    say ("✨ [green]Added package [bold cyan]" ++ id ++ "[/bold cyan][/green]")
  | parts => fail (.identifierParts parts.length)

/-- Adds a registered package to a project. A package gets it inside its own directory. -/
def add (p : Project) (id : String) : Action Unit := do
  match p.package with
  | none => unpackInto p id (sourcesIn p.directory)
  | some info =>
    let name ← written info.name.plain
    say ("✨ [yellow]This project is a package, adding package [bold cyan]" ++ id ++
      "[/bold cyan] [i]into the package directory[/i] to avoid conflicts when importing package " ++
      name ++ " into other projects[/yellow]")
    unpackInto p id (← childSetting (sourcesIn p.directory) info.name)

/-! ## Packages from elsewhere -/

/-- The first eight digits of the digest of a text. -/
def shortDigest (text : String) : String :=
  String.ofList ((Text.Digest.ofString text).toList.take 8)

/-- How many names are tried for a directory: as many as there are short digests. -/
@[irreducible] def nameLimit : Nat := 4294967296

/-- The first free name for a directory, made from `seed`; the text whose digest names it grows
with every name that is taken, at most `fuel` times. -/
def freeName (s : State) (seed : String) : Nat → String → String
  | 0, text => shortDigest text
  | fuel + 1, text =>
    let name := shortDigest text
    if (s.node? (.ofString name)).isSome then freeName s seed fuel (text ++ shortDigest seed)
    else name

/-- Fetches a package into a directory: an archive is downloaded and unpacked, anything else is
cloned. -/
def fetch (source : String) (target : Path) : Action Unit := do
  let isArchive ← if Text.isAddress source then do
      match ← contentType source with
      | some announced => pure (Text.holds "application/zip" announced)
      | none => fail (.wrongKind .noContentType)
    else pure false
  if isArchive then
    let archive := target.child "pkg.zip"
    download source archive
    unpackDownload archive target
  else clone source target

/-- A directory with a package, and whether it was made for the occasion. -/
structure Fetched where
  path : Path
  isTemporary : Bool

/-- Fetches a package into a new directory. -/
def fetchNew (source : String) : Action Fetched := do
  let target := Path.ofString (freeName (← get) source nameLimit source)
  makeDirectory target
  fetch source target
  return ⟨target, true⟩

/-- The directory of a package: the package itself if it is a path, or else a new directory into
which the package is fetched. -/
def locate (source : String) : Action Fetched := do
  let path := Path.ofString source
  if ← fileExists path then return ⟨path, false⟩ else fetchNew source

/-- Removes a directory that was made for the occasion. -/
def Fetched.discard (f : Fetched) : Action Unit :=
  if f.isTemporary then removeTree f.path else return

/-- Registers the package in a directory or at an address. -/
def registerFrom (source : String) : Action Unit := do
  let fetched ← locate source
  let p ← openAt fetched.path
  if p.package.isNone then fail (.notPackage fetched.path.toString)
  register p
  fetched.discard

end RobotKit.Registry
