/-!
# Paths

A path is a list of names, from the root or from the current directory. Empty names and single
dots vanish when a path is read; double dots stay. A `Location` is a list of names from the root
without double dots.
-/

namespace RobotKit.Files

structure Path where
  isAbsolute : Bool
  parts : List String
deriving DecidableEq, Inhabited

/-- Names from the root. -/
abbrev Location := List String

/-- The pieces of a text between the places where a character stands. -/
def splitAtChar (separator : Char) : List Char → List (List Char)
  | [] => [[]]
  | c :: rest =>
    if c = separator then [] :: splitAtChar separator rest
    else match splitAtChar separator rest with
      | [] => [[c]]
      | part :: parts => (c :: part) :: parts

def splitSlashes (text : String) : List String :=
  (splitAtChar '/' text.toList).map String.ofList

namespace Path

def here : Path := ⟨false, []⟩

def ofString (text : String) : Path :=
  ⟨text.toList.head? = some '/', (splitSlashes text).filter fun part => part ≠ "" && part ≠ "."⟩

/-- Writes a path; the current directory is a dot. -/
def toString (p : Path) : String :=
  if p.isAbsolute then "/" ++ "/".intercalate p.parts
  else if p.parts.isEmpty then "."
  else "/".intercalate p.parts

/-- The path `q` as seen from `p`. -/
def append (p q : Path) : Path := if q.isAbsolute then q else { p with parts := p.parts ++ q.parts }

/-- The path that a text names as seen from `p`. -/
def child (p : Path) (text : String) : Path := p.append (ofString text)

def name (p : Path) : String := p.parts.getLast?.getD ""

def parent (p : Path) : Path := { p with parts := p.parts.dropLast }

def ofLocation (location : Location) : Path := ⟨true, location⟩

end Path

def Location.text (location : Location) : String := "/" ++ "/".intercalate location

/-- Follows names by spelling alone: a double dot leaves the directory before it. -/
def followNames (start : Location) : List String → Location
  | [] => start
  | ".." :: rest => followNames start.dropLast rest
  | part :: rest => followNames (start ++ [part]) rest

/-- The location that a path spells, seen from a directory. -/
def Path.spelled (p : Path) (directory : Location) : Location :=
  followNames (if p.isAbsolute then [] else directory) p.parts

/-- The names that lead from one location to another: up to the common start, then down. -/
def relativeParts : Location → Location → List String
  | a :: start, b :: target =>
    if a = b then relativeParts start target
    else (a :: start).map (fun _ => "..") ++ b :: target
  | start, target => start.map (fun _ => "..") ++ target

/-- The text of `target` as seen from `start`. -/
def relativeText (start target : Location) : String := (⟨false, relativeParts start target⟩ : Path).toString

/-- The part of a name from its last dot on, unless it starts or ends with that dot. -/
def suffixOf (name : String) : String :=
  let reversed := name.toList.reverse
  let tail := reversed.takeWhile (· ≠ '.')
  if tail.isEmpty || tail.length + 1 ≥ reversed.length then ""
  else String.ofList ('.' :: tail.reverse)

end RobotKit.Files
