import RobotKit.Decimal.Binary64
import RobotKit.Text.CodePoint

/-!
# The syntax of scripts

Robot programs are Python scripts. Their syntax trees come in three kinds: expressions, match
patterns and statements. Whether a name is read or bound follows from where it stands, so names
carry no mark of their own for that.
-/

namespace RobotKit.Script

open RobotKit.Decimal RobotKit.Text

inductive Literal where
  | null
  | bool (value : Bool)
  | ellipsis
  | int (value : Nat)
  | float (value : Binary64)
  | imaginary (value : Binary64)
  /-- A text; `tagged` if it was written with the letter `u`. -/
  | text (value : List CodePoint) (tagged : Bool)
  | bytes (value : List UInt8)
deriving DecidableEq

/-- Operators with one operand. -/
inductive UnaryOp where
  | invert | not | plus | minus
deriving DecidableEq

/-- Arithmetic and bitwise operators. -/
inductive BinaryOp where
  | add | sub | mul | matMul | div | floorDiv | mod | pow
  | shiftLeft | shiftRight | bitOr | bitXor | bitAnd
deriving DecidableEq

/-- Short-circuit operators. -/
inductive BoolOp where
  | and | or
deriving DecidableEq

inductive CompareOp where
  | eq | ne | lt | le | gt | ge | is | isNot | member | notMember
deriving DecidableEq

/-- What a comprehension without key builds. -/
inductive Collection where
  | list | set | generator
deriving DecidableEq

/-- How a formatted field turns its value into text first. -/
inductive Conversion where
  | str | repr | ascii
deriving DecidableEq

/-- A parameter of a function, with expressions in `ε`. -/
structure Param (ε : Type) where
  name : String
  type : Option ε
  default : Option ε

/-- The parameters of a function: before the slash, ordinary, the one that collects positions,
after the star, and the one that collects keywords. -/
structure Params (ε : Type) where
  positional : List (Param ε)
  regular : List (Param ε)
  rest : Option (Param ε)
  keywordOnly : List (Param ε)
  keywordRest : Option (Param ε)

/-- A keyword argument of a call; without name it spreads a mapping. -/
structure Keyword (ε : Type) where
  name : Option String
  value : ε

/-- One `for … in … if …` clause of a comprehension. -/
structure Generator (ε : Type) where
  isAsync : Bool
  target : ε
  source : ε
  conditions : List ε

/-- An entry of a dictionary display; without key it spreads a mapping. -/
structure Entry (ε : Type) where
  key : Option ε
  value : ε

mutual

inductive Expr where
  | name (id : String)
  | literal (value : Literal)
  | formatted (parts : List FormatPart)
  | tuple (items : List Expr)
  | list (items : List Expr)
  | set (items : List Expr)
  | dict (entries : List (Entry Expr))
  | unary (op : UnaryOp) (operand : Expr)
  | binary (left : Expr) (op : BinaryOp) (right : Expr)
  | boolean (op : BoolOp) (operands : List Expr)
  | compare (left : Expr) (rest : List (CompareOp × Expr))
  | call (function : Expr) (arguments : List Expr) (keywords : List (Keyword Expr))
  | attribute (value : Expr) (field : String)
  | subscript (value : Expr) (index : Expr)
  | slice (lower upper step : Option Expr)
  | starred (value : Expr)
  | conditional (test body orElse : Expr)
  | lambda (params : Params Expr) (body : Expr)
  | comprehension (kind : Collection) (element : Expr) (generators : List (Generator Expr))
  | dictComprehension (key value : Expr) (generators : List (Generator Expr))
  | named (target : Expr) (value : Expr)
  | await (value : Expr)
  | yield (value : Option Expr)
  | yieldFrom (value : Expr)

/-- Parts of a formatted text: plain text, and fields with a conversion and a format. -/
inductive FormatPart where
  | text (value : List CodePoint)
  | field (value : Expr) (conversion : Option Conversion) (format : Option (List FormatPart))

end

instance : Inhabited Expr := ⟨.literal .null⟩

/-- Patterns of `match` statements. -/
inductive Pattern where
  | value (value : Expr)
  | singleton (value : Literal)
  | sequence (items : List Pattern)
  | mapping (entries : List (Expr × Pattern)) (rest : Option String)
  | object (type : Expr) (positions : List Pattern) (fields : List (String × Pattern))
  | star (name : Option String)
  | wildcard
  | capture (name : String)
  | binding (pattern : Pattern) (name : String)
  | alternatives (items : List Pattern)

/-- A name in an import statement, with the name that it is bound to. -/
structure Alias where
  name : String
  boundAs : Option String
deriving DecidableEq

structure WithItem where
  context : Expr
  target : Option Expr

mutual

inductive Stmt where
  | expression (value : Expr)
  | assign (targets : List Expr) (value : Expr)
  | augmented (target : Expr) (op : BinaryOp) (value : Expr)
  /-- A variable annotation; `plain` if the target is a name without parentheses. -/
  | annotated (target type : Expr) (value : Option Expr) (plain : Bool)
  | returns (value : Option Expr)
  | delete (targets : List Expr)
  | pass
  | breaks
  | continues
  | raises (error : Option (Expr × Option Expr))
  | asserts (test : Expr) (message : Option Expr)
  | globals (names : List String)
  | nonlocals (names : List String)
  | imports (names : List Alias)
  | importFrom (source : Option String) (names : List Alias) (level : Nat)
  | function (isAsync : Bool) (name : String) (params : Params Expr) (body : List Stmt)
      (decorators : List Expr) (result : Option Expr)
  | classDef (name : String) (bases : List Expr) (keywords : List (Keyword Expr))
      (body : List Stmt) (decorators : List Expr)
  | branch (test : Expr) (body orElse : List Stmt)
  | whileLoop (test : Expr) (body orElse : List Stmt)
  | forLoop (isAsync : Bool) (target source : Expr) (body orElse : List Stmt)
  | withBlock (isAsync : Bool) (items : List WithItem) (body : List Stmt)
  /-- A `try` statement; `grouped` if its handlers take exception groups apart. -/
  | tryBlock (grouped : Bool) (body : List Stmt) (handlers : List Handler)
      (orElse final : List Stmt)
  | choose (subject : Expr) (cases : List Case)

/-- An `except` clause. -/
inductive Handler where
  | mk (type : Option Expr) (name : Option String) (body : List Stmt)

inductive Case where
  | mk (pattern : Pattern) (guard : Option Expr) (body : List Stmt)

end

instance : Inhabited Stmt := ⟨.pass⟩

end RobotKit.Script
