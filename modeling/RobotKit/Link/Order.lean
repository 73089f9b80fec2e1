import RobotKit.Table

/-!
# The order of symbols

Symbols are put in an order in which each follows the symbols that it depends on: a depth-first
walk lists a symbol after its dependencies. Where the walk comes back to a symbol that it has not
finished, the symbol is listed there and then; so a symbol on a cycle may be listed more than
once.
-/

namespace RobotKit.Link

/-- A walk so far: the finished symbols and the list of symbols, latest first. -/
structure Walk where
  finished : List String
  listed : List String

/-- The symbols that a symbol depends on, in the order in which they are walked. Symbols outside
`known` are not followed. -/
def nextSymbols (deps : Table (List String)) (known : List String) (symbol : String) :
    List String :=
  ((deps.get? symbol).getD []).filter known.contains

/-- Visits a symbol that is reached along `path`, at most `fuel` symbols deep. -/
def Walk.visit (deps : Table (List String)) (known : List String) :
    Nat → List String → Walk → String → Walk
  | 0, _, walk, _ => walk
  | fuel + 1, path, walk, symbol =>
    if walk.finished.contains symbol then walk
    else if path.contains symbol then { walk with listed := symbol :: walk.listed }
    else
      let done := (nextSymbols deps known symbol).foldl
        (Walk.visit deps known fuel (symbol :: path)) walk
      { finished := symbol :: done.finished, listed := symbol :: done.listed }

/-- The walk that visits the symbols of `roots` one after the other. -/
def walkFrom (deps : Table (List String)) (known roots : List String) : Walk :=
  roots.foldl (Walk.visit deps known (known.length + 2) []) { finished := [], listed := [] }

/-- Removes later copies of a name. -/
def distinct (names : List String) : List String := names.eraseDups

/-- Puts a name into a sorted list, before the first name that is not smaller. -/
def insertName (name : String) : List String → List String
  | [] => [name]
  | first :: rest =>
    if name ≤ first then name :: first :: rest else first :: insertName name rest

/-- Names in increasing order of their code points. -/
def sortNames (names : List String) : List String := names.foldr insertName []

/-- The known symbols in dependency order, started in the order of their names. -/
def orderSymbols (deps : Table (List String)) (known : List String) : List String :=
  (walkFrom deps known (sortNames (distinct known))).listed.reverse

end RobotKit.Link
