import RobotKit.Command.Usage
import RobotKit.Table
import RobotKit.Text.Integer
import RobotKit.Text.Quoted

/-!
# Reading the command line

The words of the command line are read level by level: those of a command up to the next command
in it. At each level a word is an option, a value, or the separator after which all words are
values.
-/

namespace RobotKit.Command

/-- A value that an argument was given. -/
inductive Given where
  | present
  | text (value : String)
  | integer (value : Int)
  | texts (values : List String)

/-- Why the command line is not run. -/
inductive Stop where
  /-- Help was asked for. -/
  | help (g : Grammar)
  /-- The command line does not follow the grammar. -/
  | refused (g : Grammar) (message : String)
  /-- A value is neither a directory nor an address. -/
  | notPlace (text : String)

/-- An option that a word names. -/
structure Named where
  argument : Argument
  spelling : String
  /-- The value that the same word gives, and whether an equals sign stands before it. -/
  inner : Option (String × Bool)

inductive Word where
  | separator
  | value (text : String)
  | named (text : String) (option : Named)
  | unknown (text : String)

def Word.text : Word → String
  | .separator => "--"
  | .value text => text
  | .named text _ => text
  | .unknown text => text

def Word.isOption : Word → Bool
  | .named .. => true
  | .unknown _ => true
  | _ => false

def startsWith (start text : String) : Bool := start.toList.isPrefixOf text.toList

/-- The text before the first equals sign and the text after it. -/
def splitEquals (text : String) : String × Option String :=
  let before := text.toList.takeWhile (· ≠ '=')
  match text.toList.drop before.length with
  | [] => (text, none)
  | _ :: after => (String.ofList before, some (String.ofList after))

/-- Does a text look like a negative number? A line end may follow. -/
def isNegativeNumber (text : String) : Bool :=
  let isDigit := fun c => (Text.digitValue? c).isSome
  let number := match text.toList.reverse with
    | '\n' :: rest => rest.reverse
    | _ => text.toList
  match number with
  | '-' :: rest =>
    let whole := rest.takeWhile isDigit
    match rest.drop whole.length with
    | [] => !whole.isEmpty
    | '.' :: fraction => !fraction.isEmpty && fraction.all isDigit
    | _ => false
  | _ => false

/-- The spellings of a grammar with their options. -/
def Grammar.spellings (g : Grammar) : List (String × Argument) :=
  g.arguments.flatMap fun a => a.spellings.map fun spelling => (spelling, a)

/-- The options that a word may stand for when no spelling equals it: those that it begins, or a
short option with its value in the same word. -/
def Grammar.abbreviated (g : Grammar) (text : String) : List Named :=
  if startsWith "--" text then
    let (start, inner) := splitEquals text
    g.spellings.filterMap fun (spelling, a) =>
      if startsWith start spelling then some ⟨a, spelling, inner.map (·, true)⟩ else none
  else
    let short := String.ofList (text.toList.take 2)
    g.spellings.filterMap fun (spelling, a) =>
      if spelling = short then some ⟨a, spelling, some (String.ofList (text.toList.drop 2), false)⟩
      else if startsWith text spelling then some ⟨a, spelling, none⟩
      else none

def Grammar.word (g : Grammar) (text : String) : Except Stop Word :=
  if !startsWith "-" text || text = "-" then .ok (.value text)
  else match g.spellings.lookup text with
    | some a => .ok (.named text ⟨a, text, none⟩)
    | none =>
      let (start, inner) := splitEquals text
      match inner, g.spellings.lookup start with
      | some value, some a => .ok (.named text ⟨a, start, some (value, true)⟩)
      | _, _ => match g.abbreviated text with
        | [option] => .ok (.named text option)
        | [] =>
          if isNegativeNumber text || text.toList.contains ' ' then .ok (.value text)
          else .ok (.unknown text)
        | options => .error (.refused g ("ambiguous option: " ++ text ++ " could match " ++
            ", ".intercalate (options.map (·.spelling))))

def Grammar.words (g : Grammar) : List String → Except Stop (List Word)
  | [] => .ok []
  | text :: rest =>
    if text = "--" then .ok (.separator :: rest.map .value)
    else do return (← g.word text) :: (← g.words rest)

/-- What was read at one level. -/
structure Level where
  grammar : Grammar
  values : Table Given
  /-- Words that nothing was done with. -/
  extras : List String
  /-- The command that was chosen, and the words after it. -/
  command : Option (String × List String)

def refuseArgument {α : Type} (g : Grammar) (label message : String) : Except Stop α :=
  .error (.refused g ("argument " ++ label ++ ": " ++ message))

def Level.give (isPlace : String → Bool) (level : Level) (a : Argument) (text : String) :
    Except Stop Level :=
  match a.kind with
  | .text => .ok { level with values := level.values.insert a.name (.text text) }
  | .integer => match Text.integer? text with
    | some n => .ok { level with values := level.values.insert a.name (.integer n) }
    | none => refuseArgument level.grammar a.label ("invalid int value: " ++ Text.quoteString text)
  | .place =>
    if isPlace text then .ok { level with values := level.values.insert a.name (.text text) }
    else .error (.notPlace text)

/-- Takes a switch; the switch that asks for help stops everything. -/
def Level.switch (level : Level) (a : Argument) : Except Stop Level :=
  if a.name = "help" then .error (.help level.grammar)
  else .ok { level with values := level.values.insert a.name .present }

/-- Refuses a value inside the word of a switch. -/
def Level.refuseInner {α : Type} (level : Level) (a : Argument) (inner : String) : Except Stop α :=
  refuseArgument level.grammar a.label ("ignored explicit argument " ++ Text.quoteString inner)

/-- Takes a switch whose word goes on. Of a short switch, the next letter may be another one. -/
def Level.switchWith (level : Level) (a : Argument) (isShort : Bool) :
    List Char → Bool → Except Stop Level
  | [], _ => level.refuseInner a ""
  | c :: rest, equals =>
    let inner := String.ofList (c :: rest)
    if !isShort || equals || c = '-' then level.refuseInner a inner
    else if (level.grammar.spellings.lookup ("-" ++ String.singleton c)).isSome then
      match rest with
      | [] => level.switch a
      | '=' :: after => match after with
        | [] => level.refuseInner a ""
        | after => level.refuseInner a (String.ofList after)
      | rest => level.switchWith a isShort rest false
    else level.switch a

/-- Takes an option and the words that belong to it; gives the words after them. -/
def Level.takeOption (isPlace : String → Bool) (level : Level) (option : Named)
    (rest : List Word) : Except Stop (Level × List Word) :=
  let a := option.argument
  match a.arity, option.inner with
  | .switch, none => do return (← level.switch a, rest)
  | .switch, some (inner, equals) => do
    let isShort := !startsWith "--" option.spelling
    return (← level.switchWith a isShort inner.toList equals, rest)
  | _, some (inner, _) => do return (← level.give isPlace a inner, rest)
  | .optional, none => match rest with
    | .value text :: rest => do return (← level.give isPlace a text, rest)
    | rest => .ok ({ level with values := level.values.insert a.name .present }, rest)
  | _, none => match rest with
    | .value text :: rest => do return (← level.give isPlace a text, rest)
    | _ => refuseArgument level.grammar a.label "expected one argument"

/-- The words without a separator in front. -/
def afterSeparator : List Word → List Word
  | .separator :: rest => rest
  | words => words

/-- Takes positional arguments from the words in front. Nothing is taken if the words do not start
with a value, perhaps after the separator. -/
def Level.takePositional (isPlace : String → Bool) (level : Level) (left : List Argument)
    (words : List Word) : Except Stop (Level × List Argument × List Word) :=
  match left, afterSeparator words with
  | a :: left, after =>
    if a.arity = .rest then
      let values := level.values.insert a.name (.texts (words.map Word.text))
      .ok ({ level with values }, left, [])
    else match after with
      | .value text :: rest => do
        return (← level.give isPlace a text, left, afterSeparator rest)
      | _ => .ok (level, a :: left, words)
  | [], .value _ :: _ =>
    if level.grammar.commands.isEmpty || level.command.isSome then .ok (level, [], words)
    else match words.map Word.text with
      | name :: rest =>
        if (level.grammar.commands.lookup name).isSome then
          .ok ({ level with command := some (name, rest) }, [], [])
        else refuseArgument level.grammar level.grammar.choice.1
          ("invalid choice: " ++ Text.quoteString name ++ " (choose from " ++
            ", ".intercalate (level.grammar.commands.map fun c => Text.quoteString c.1) ++ ")")
      | [] => .ok (level, [], words)
  | [], _ => .ok (level, [], words)

/-- Reads the words of a level, at most `fuel` steps. -/
def Level.readWords (isPlace : String → Bool) :
    Nat → Level → List Argument → List Word → Except Stop (Level × List Argument)
  | 0, level, left, _ => .ok (level, left)
  | fuel + 1, level, left, words =>
    if words.any Word.isOption then
      match words with
      | .named _ option :: rest => do
        let (level, rest) ← level.takeOption isPlace option rest
        level.readWords isPlace fuel left rest
      | .unknown text :: rest =>
        { level with extras := level.extras ++ [text] }.readWords isPlace fuel left rest
      | words => do
        let (next, left', rest) ← level.takePositional isPlace left words
        if rest.length < words.length then next.readWords isPlace fuel left' rest
        else
          let skipped := words.takeWhile (!·.isOption)
          { level with extras := level.extras ++ skipped.map Word.text }.readWords isPlace fuel left
            (words.drop skipped.length)
    else do
      let (level, left, rest) ← level.takePositional isPlace left words
      return ({ level with extras := level.extras ++ rest.map Word.text }, left)

def Grammar.read (isPlace : String → Bool) (g : Grammar) (texts : List String) :
    Except Stop Level := do
  let words ← g.words texts
  let start : Level := { grammar := g, values := {}, extras := [], command := none }
  let (level, left) ← start.readWords isPlace (2 * words.length + 1)
    (g.arguments.filter (·.isPositional)) words
  let missing := (g.arguments.filter fun a => !a.isPositional && a.isRequired &&
    !level.values.contains a.name) ++ left.filter (·.isRequired)
  if missing.isEmpty then return level
  else throw (.refused g ("the following arguments are required: " ++
    ", ".intercalate (missing.map (·.label))))

/-- What was read of a whole command line: the commands and the values of all levels. -/
structure Line where
  path : List String
  values : Table Given

/-- Reads the levels after some commands, at most `fuel` of them. -/
def readLevels (isPlace : String → Bool) :
    Nat → List String → Table Given → List String → List String → Except Stop (Line × List String)
  | 0, path, values, extras, _ => .ok (⟨path, values⟩, extras)
  | fuel + 1, path, values, extras, texts => do
    let level ← (grammarAfter path).read isPlace texts
    let values := level.values.entries.foldl (fun t entry => t.insert entry.1 entry.2) values
    let extras := extras ++ level.extras
    match level.command with
    | none => return (⟨path, values⟩, extras)
    | some (name, rest) => readLevels isPlace fuel (path ++ [name]) values extras rest

/-- Reads a command line. Words that nothing was done with are refused in the end. -/
def readLine (isPlace : String → Bool) (texts : List String) : Except Stop Line := do
  let (line, extras) ← readLevels isPlace (texts.length + 1) [] {} [] texts
  if extras.isEmpty then return line
  else throw (.refused topGrammar ("unrecognized arguments: " ++ " ".intercalate extras))

end RobotKit.Command
