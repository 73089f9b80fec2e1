import RobotKit.Config.Reading

/-!
# Writing configuration files

A table is written as its plain entries, one a line, and then its subtables under headers of
their own. Lists take one line per item. Tables inside a list are written in one piece, or under
headers in double brackets when one of them is too long for that.
-/

namespace RobotKit.Config

open RobotKit.Decimal

/-- One character between double quotation marks. -/
def quotedCharacter (c : Char) : List Char :=
  if c = '\x08' then ['\\', 'b']
  else if c = '\n' then ['\\', 'n']
  else if c = '\x0c' then ['\\', 'f']
  else if c = '\r' then ['\\', 'r']
  else if c = '"' then ['\\', '"']
  else if c = '\\' then ['\\', '\\']
  else if isControl c then ['\\', 'u'] ++ Text.hexPadded 4 c.toNat
  else [c]

/-- A text between double quotation marks. -/
def quoted (text : String) : String :=
  String.ofList ('"' :: text.toList.flatMap quotedCharacter ++ ['"'])

/-- A name of a key, quoted if it has to be. -/
def keyText (name : String) : String :=
  if name ≠ "" && name.toList.all isBareKey then name else quoted name

/-- Four blanks for every level of nesting. -/
def indent (level : Nat) : String := String.ofList (List.replicate (4 * level) ' ')

mutual

/-- A value in one piece, nested `level` lists deep. -/
def literal (level : Nat) : Value → Except Script.WriteError String
  | .text value => .ok (quoted value)
  | .integer value => Value.integerText value
  | .decimal value => .ok (plainStyle.write value)
  | .flag value => .ok (if value then "true" else "false")
  | .moment value => .ok value.text
  | .list [] => .ok "[]"
  | .list items => do
    return "[\n" ++ ",\n".intercalate (← literalItems level items) ++ ",\n" ++ indent level ++ "]"
  | .table [] => .ok "\x7b\x7d"
  | .table entries => do
    return "\x7b " ++ ", ".intercalate (← literalEntries entries) ++ " \x7d"

def literalItems (level : Nat) : List Value → Except Script.WriteError (List String)
  | [] => .ok []
  | value :: rest => do
    return (indent (level + 1) ++ (← literal (level + 1) value)) :: (← literalItems level rest)

/-- The entries of a table in one piece. -/
def literalEntries : List (String × Value) → Except Script.WriteError (List String)
  | [] => .ok []
  | (name, value) :: rest => do
    return (keyText name ++ " = " ++ (← literal 0 value)) :: (← literalEntries rest)

end

/-- Does a table in one piece fit in a line of a list? -/
def fitsLine (value : Value) : Except Script.WriteError Bool := do
  let text ← literal 0 value
  return text.length + 5 ≤ 100 && !text.toList.contains '\n'

/-- A list of tables and of nothing else. -/
def isTableList : List Value → Bool
  | [] => false
  | items => items.all fun item => item.entries?.isSome

/-- Do all tables of a list fit in a line? -/
def allFit : List Value → Except Script.WriteError Bool
  | [] => .ok true
  | value :: rest => do if ← fitsLine value then allFit rest else return false

/-- Are the entry's values written under headers of their own? -/
def hasHeader : Value → Except Script.WriteError Bool
  | .table _ => .ok true
  | .list items => if isTableList items then return !(← allFit items) else .ok false
  | _ => .ok false

/-- What was written, and why the writing stopped early if it did. -/
structure Written where
  text : String
  error : Option Script.WriteError

def Written.whole (text : String) : Written := ⟨text, none⟩

/-- One piece after another, up to the first that stops early. -/
def Written.then (a b : Written) : Written :=
  if a.error.isSome then a else ⟨a.text ++ b.text, b.error⟩

/-- Writes a text that may fail. -/
def Written.ofExcept : Except Script.WriteError String → Written
  | .ok text => .whole text
  | .error e => ⟨"", some e⟩

def plainLines : Entries → Written
  | [] => .whole ""
  | (name, value) :: rest =>
    (Written.ofExcept do return keyText name ++ " = " ++ (← literal 0 value) ++ "\n").then
      (plainLines rest)

def subtableName (name part : String) : String :=
  if name = "" then keyText part else name ++ "." ++ keyText part

mutual

/-- Writes a table of the given name; `inList` if it is one of a list of tables. -/
def writeTable (name : String) (inList : Bool) : Value → Written
  | .table entries =>
    let sorted : Except Script.WriteError (List (String × Bool)) :=
      entries.mapM fun (key, value) => do return (key, ← hasHeader value)
    match sorted with
    | .error e => ⟨"", some e⟩
    | .ok marks =>
      let plain := (entries.zip marks).filterMap fun (entry, mark) =>
        if mark.2 then none else some entry
      let hasTables := marks.any (·.2)
      let header := if inList then "[[" ++ name ++ "]]\n"
        else if name ≠ "" && (!plain.isEmpty || !hasTables) then "[" ++ name ++ "]\n" else ""
      let started := header ≠ "" || !plain.isEmpty
      (Written.whole header).then ((plainLines plain).then (writeSubtables name started entries))
  | _ => .whole ""

/-- Writes the subtables among some entries, each after a blank line; only the first thing that
is written needs none. -/
def writeSubtables (name : String) (started : Bool) : List (String × Value) → Written
  | [] => .whole ""
  | (key, .table entries) :: rest =>
    (Written.whole (if started then "\n" else "")).then
      ((writeTable (subtableName name key) false (.table entries)).then (writeSubtables name true rest))
  | (key, .list items) :: rest =>
    match hasHeader (.list items) with
    | .ok true => (writeListTables (subtableName name key) started items).then
        (writeSubtables name true rest)
    | _ => writeSubtables name started rest
  | _ :: rest => writeSubtables name started rest

def writeListTables (name : String) (started : Bool) : List Value → Written
  | [] => .whole ""
  | value :: rest =>
    (Written.whole (if started then "\n" else "")).then
      ((writeTable name true value).then (writeListTables name true rest))

end

def write (entries : Entries) : Written := writeTable "" false (.table entries)

end RobotKit.Config
