import RobotKit.Config.Value
import RobotKit.Table

/-!
# Configuration documents under construction

A document grows statement by statement. Besides its values it keeps marks on keys: tables that
were opened by a header or a dotted key may not be opened again, and nothing may be added to a
value that was written in one piece.
-/

namespace RobotKit.Config

abbrev Key := List String

abbrev Entries := List (String × Value)

/-- What is wrong with a document. -/
inductive Problem where
  | statement
  | afterStatement
  | keyStart
  | equals
  | tableEnd
  | tableListEnd
  | declaredTwice (key : Key)
  | immutable (key : Key)
  | redefined (key : Key)
  | overwritten
  | duplicate (name : String)
  | unclosedList
  | unclosedTable
  | value
  | moment
  | missingMark (mark : String)
  | invalidCharacter (c : Char)
  | illegalCharacter (c : Char)
  | unterminated
  | backslash
  | hexDigits
  | notScalar
deriving DecidableEq

/-- A key as a message shows it. -/
def showKey (key : Key) : String :=
  match key with
  | [name] => "(" ++ Text.quoteString name ++ ",)"
  | names => "(" ++ ", ".intercalate (names.map Text.quoteString) ++ ")"

def Problem.message : Problem → String
  | .statement => "Invalid statement"
  | .afterStatement => "Expected newline or end of document after a statement"
  | .keyStart => "Invalid initial character for a key part"
  | .equals => "Expected '=' after a key in a key/value pair"
  | .tableEnd => "Expected ']' at the end of a table declaration"
  | .tableListEnd => "Expected ']]' at the end of an array declaration"
  | .declaredTwice key => "Cannot declare " ++ showKey key ++ " twice"
  | .immutable key => "Cannot mutate immutable namespace " ++ showKey key
  | .redefined key => "Cannot redefine namespace " ++ showKey key
  | .overwritten => "Cannot overwrite a value"
  | .duplicate name => "Duplicate inline table key " ++ Text.quoteString name
  | .unclosedList => "Unclosed array"
  | .unclosedTable => "Unclosed inline table"
  | .value => "Invalid value"
  | .moment => "Invalid date or datetime"
  | .missingMark mark => "Expected " ++ Text.quoteString mark
  | .invalidCharacter c => "Found invalid character " ++ Text.quoteString (String.singleton c)
  | .illegalCharacter c => "Illegal character " ++ Text.quoteString (String.singleton c)
  | .unterminated => "Unterminated string"
  | .backslash => "Unescaped '\\' in a string"
  | .hexDigits => "Invalid hex value"
  | .notScalar => "Escaped character is not a Unicode scalar value"

/-- Changes the table behind a key. Tables that are missing on the way are made. With
`intoLists` a list of tables stands for its last table. -/
def changeAt (intoLists : Bool) (change : Entries → Except Problem Entries) :
    Key → Entries → Except Problem Entries
  | [], entries => change entries
  | name :: rest, entries =>
    match entries.lookup name with
    | none => do
      return Table.insertEntry name (.table (← changeAt intoLists change rest [])) entries
    | some (.table inner) => do
      return Table.insertEntry name (.table (← changeAt intoLists change rest inner)) entries
    | some (.list items) =>
      match intoLists, items.getLast? with
      | true, some (.table inner) => do
        let last ← changeAt intoLists change rest inner
        return Table.insertEntry name (.list (items.dropLast ++ [.table last])) entries
      | _, _ => .error .overwritten
    | some _ => .error .overwritten

/-- Adds an entry, unless its name is taken. -/
def addEntry (taken : Problem) (name : String) (value : Value) (entries : Entries) :
    Except Problem Entries :=
  if (entries.lookup name).isSome then .error taken else .ok (entries ++ [(name, value)])

/-- Adds an empty table to the list of tables under a name. -/
def appendTable (name : String) (entries : Entries) : Except Problem Entries :=
  match entries.lookup name with
  | none => .ok (entries ++ [(name, .list [.table []])])
  | some (.list items) => .ok (Table.insertEntry name (.list (items ++ [.table []])) entries)
  | some _ => .error .overwritten

/-- Is the value written in one piece that has parts? -/
def Value.isCompound : Value → Bool
  | .list _ => true
  | .table _ => true
  | _ => false

structure Document where
  entries : Entries
  /-- The key of the table that the statements belong to. -/
  header : Key
  /-- Tables that may not be opened by a header again. -/
  opened : List Key
  /-- Tables that count as opened from the next header on. -/
  pending : List Key
  /-- Values that were written in one piece. -/
  frozen : List Key

namespace Document

def empty : Document := { entries := [], header := [], opened := [], pending := [], frozen := [] }

/-- Is the key part of a value that was written in one piece? -/
def isFrozen (frozen : List Key) (key : Key) : Bool := frozen.any (·.isPrefixOf key)

def openTable (key : Key) (d : Document) : Except Problem Document :=
  let opened := d.pending ++ d.opened
  if opened.contains key || isFrozen d.frozen key then .error (.declaredTwice key)
  else do
    let entries ← changeAt true .ok key d.entries
    return { d with entries, header := key, opened := key :: opened, pending := [] }

/-- Adds a table to the list of tables of a header. What was marked below the key is free again. -/
def openListTable (key : Key) (d : Document) : Except Problem Document :=
  let opened := d.pending ++ d.opened
  if isFrozen d.frozen key then .error (.immutable key)
  else do
    let entries ← changeAt true (appendTable (key.getLast?.getD "")) key.dropLast d.entries
    return {
      entries
      header := key
      opened := key :: opened.filter fun other => !key.isPrefixOf other
      pending := []
      frozen := d.frozen.filter fun other => !key.isPrefixOf other }

/-- The tables that a dotted key passes through, outermost first. -/
def passed (header key : Key) : List Key :=
  (List.range (key.length - 1)).map fun i => header ++ key.take (i + 1)

def set (key : Key) (value : Value) (d : Document) : Except Problem Document :=
  let tables := passed d.header key
  let parent := d.header ++ key.dropLast
  let name := key.getLast?.getD ""
  match tables.find? d.opened.contains with
  | some table => .error (.redefined table)
  | none =>
    if isFrozen d.frozen parent then .error (.immutable parent)
    else do
      let entries ← changeAt true (addEntry .overwritten name value) parent d.entries
      return { d with
        entries
        pending := d.pending ++ tables
        frozen := if value.isCompound then (d.header ++ key) :: d.frozen else d.frozen }

end Document

/-- A table written in one piece under construction: its entries, and the keys of those of them
that were written in one piece themselves. -/
structure InlineTable where
  entries : Entries
  frozen : List Key

/-- Sets a key of a table that is written in one piece. -/
def InlineTable.set (key : Key) (value : Value) (t : InlineTable) : Except Problem InlineTable :=
  let name := key.getLast?.getD ""
  if Document.isFrozen t.frozen key then .error (.immutable key)
  else do
    let entries ← changeAt false (addEntry (.duplicate name) name value) key.dropLast t.entries
    return { entries, frozen := if value.isCompound then key :: t.frozen else t.frozen }

end RobotKit.Config
