import RobotKit.Script.Syntax

/-!
# Import statements of a script

The import statements of a script are met level by level: those of the top level first, then
those one block deeper, and so on. The clauses of `try` and `match` statements are levels of
their own.
-/

namespace RobotKit.Link

open RobotKit.Script

inductive Import where
  | modules (names : List Alias)
  | names (source : Option String) (names : List Alias) (level : Nat)
deriving DecidableEq

/-- Joins two lists of levels, level by level. -/
def joinLevels : List (List Import) → List (List Import) → List (List Import)
  | [], other => other
  | levels, [] => levels
  | a :: as, b :: bs => (a ++ b) :: joinLevels as bs

mutual

/-- The imports of a statement by level, its own level first. -/
def stmtLevels : Stmt → List (List Import)
  | .imports names => [[.modules names]]
  | .importFrom source names level => [[.names source names level]]
  | .function _ _ _ body _ _ => [] :: blockLevels body
  | .classDef _ _ _ body _ => [] :: blockLevels body
  | .branch _ body orElse => [] :: joinLevels (blockLevels body) (blockLevels orElse)
  | .whileLoop _ body orElse => [] :: joinLevels (blockLevels body) (blockLevels orElse)
  | .forLoop _ _ _ body orElse => [] :: joinLevels (blockLevels body) (blockLevels orElse)
  | .withBlock _ _ body => [] :: blockLevels body
  | .tryBlock _ body handlers orElse final =>
    [] :: joinLevels (blockLevels body) (joinLevels (handlerLevels handlers)
      (joinLevels (blockLevels orElse) (blockLevels final)))
  | .choose _ cases => [] :: caseLevels cases
  | _ => []

/-- The imports of a block by level. -/
def blockLevels : List Stmt → List (List Import)
  | [] => []
  | s :: rest => joinLevels (stmtLevels s) (blockLevels rest)

/-- The imports of `except` clauses by level. -/
def handlerLevels : List Handler → List (List Import)
  | [] => []
  | .mk _ _ body :: rest => joinLevels ([] :: blockLevels body) (handlerLevels rest)

/-- The imports of `case` clauses by level. -/
def caseLevels : List Case → List (List Import)
  | [] => []
  | .mk _ _ body :: rest => joinLevels ([] :: blockLevels body) (caseLevels rest)

end

/-- The import statements of a script in the order in which they are met. -/
def importsOf (body : List Stmt) : List Import := (blockLevels body).flatten

end RobotKit.Link
