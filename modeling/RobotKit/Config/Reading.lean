import RobotKit.Config.Document
import RobotKit.Text.Utf8

/-!
# Reading configuration files

A configuration file is a sequence of lines: table headers in brackets, and keys with their
values. The reader goes through the characters once; what it has not read yet is its state, so
that the place of an error is known by what is left.
-/

namespace RobotKit.Config

open RobotKit.Decimal

/-- Why a document is refused: a problem and the number of characters that were left, or an
integer with too many digits. -/
inductive Trouble where
  | at (problem : Problem) (left : Nat)
  | longInteger (digits : Nat)

/-- A reader of a part of a document. -/
abbrev Reader := StateT (List Char) (Except Trouble)

namespace Reader

/-- Refuses the document at the present place. -/
def refuse {α : Type} (problem : Problem) : Reader α := do
  throw (.at problem (← get).length)

/-- Passes a problem on with the present place. -/
def lift {α : Type} : Except Problem α → Reader α
  | .ok a => pure a
  | .error problem => refuse problem

/-- Skips characters of a class. -/
def skip (p : Char → Bool) : Reader Unit := modify (·.dropWhile p)

/-- Takes a given start, if the rest begins with it. -/
def takeText (start : String) : Reader Bool := do
  let rest ← get
  if start.toList.isPrefixOf rest then
    set (rest.drop start.length)
    return true
  else return false

end Reader

open Reader

def isLineBlank (c : Char) : Bool := c = ' ' || c = '\t'

def isGap (c : Char) : Bool := isLineBlank c || c = '\n'

/-- A control character other than the tab. -/
def isControl (c : Char) : Bool := (c.toNat < 32 && c ≠ '\t') || c.toNat = 127

/-- A control character other than tab and line end. -/
def isLongControl (c : Char) : Bool := isControl c && c ≠ '\n'

/-- A character of a key that needs no quotation marks. -/
def isBareKey (c : Char) : Bool :=
  ('a' ≤ c && c ≤ 'z') || ('A' ≤ c && c ≤ 'Z') || ('0' ≤ c && c ≤ '9') || c = '-' || c = '_'

/-- The characters before the first place where `mark` stands, and the rest from there on. -/
def splitAtMark (mark : List Char) : List Char → Option (List Char × List Char)
  | [] => none
  | c :: rest =>
    if mark.isPrefixOf (c :: rest) then some ([], c :: rest)
    else (splitAtMark mark rest).map fun (before, after) => (c :: before, after)

/-- Takes some characters, none of which may be in the class `refused`. -/
def takeChecked (refused : Char → Bool) (taken : List Char) (rest : List Char) : Reader Unit := do
  match taken.find? refused with
  | some c =>
    let before := taken.takeWhile (!refused ·)
    modify (·.drop before.length)
    refuse (.invalidCharacter c)
  | none => set rest

def comment : Reader Unit := do
  match ← get with
  | '#' :: rest =>
    set rest
    let taken := rest.takeWhile (· ≠ '\n')
    takeChecked isControl taken (rest.drop taken.length)
  | _ => return

/-- Skips blanks, line ends and comments, at most `fuel` times one after the other. -/
def gaps : Nat → Reader Unit
  | 0 => return
  | fuel + 1 => do
    let before := (← get).length
    skip isGap
    comment
    if (← get).length < before then gaps fuel

/-! ## Texts -/

/-- A character given by its number in base 16. -/
def hexCharacter (count : Nat) : Reader (List Char) := do
  let digits := (← get).take count
  let isHex := fun (c : Char) =>
    c.isDigit || ('a' ≤ c && c ≤ 'f') || ('A' ≤ c && c ≤ 'F')
  if digits.length ≠ count || !digits.all isHex then refuse .hexDigits
  modify (·.drop count)
  let code := Text.readHex digits
  if code < 0xD800 || (0xDFFF < code && code < 0x110000) then return [Char.ofNat code]
  else refuse .notScalar

/-- The escapes of one letter. -/
def simpleEscapes : List (Char × Char) :=
  [('b', '\x08'), ('t', '\t'), ('n', '\n'), ('f', '\x0c'), ('r', '\r'), ('"', '"'), ('\\', '\\')]

/-- The characters that an escape stands for; a backslash at the end of a line of a long text
stands for nothing and takes the gap after it along. -/
def escape (long : Bool) : Reader (List Char) := do
  let second := ((← get).drop 1).head?
  modify (·.drop 2)
  match second with
  | some c =>
    if long && isGap c then
      if c ≠ '\n' then
        skip isLineBlank
        match ← get with
        | [] => return []
        | '\n' :: rest => set rest
        | _ => refuse .backslash
      skip isGap
      return []
    else if c = 'u' then hexCharacter 4
    else if c = 'U' then hexCharacter 8
    else match simpleEscapes.lookup c with
      | some value => return [value]
      | none => refuse .backslash
  | none => refuse .backslash

/-- The rest of a text between double quotation marks. -/
def basicText (long : Bool) : Nat → List Char → Reader (List Char)
  | 0, _ => refuse .unterminated
  | fuel + 1, taken => do
    match ← get with
    | [] => refuse .unterminated
    | '"' :: rest =>
      if !long then
        set rest
        return taken
      else if ['"', '"'].isPrefixOf rest then
        set (rest.drop 2)
        return taken
      else
        set rest
        basicText long fuel (taken ++ ['"'])
    | '\\' :: _ =>
      let value ← escape long
      basicText long fuel (taken ++ value)
    | c :: rest =>
      if isControl c && !(long && c = '\n') then refuse (.illegalCharacter c)
      set rest
      basicText long fuel (taken ++ [c])

/-- The rest of a text between double quotation marks. -/
def basicRest (long : Bool) : Reader (List Char) := do basicText long ((← get).length + 1) []

/-- The rest of a text that ends with a mark and has no escapes. -/
def literalRest (mark : String) (refused : Char → Bool) : Reader (List Char) := do
  let rest ← get
  match splitAtMark mark.toList rest with
  | none =>
    set ([] : List Char)
    refuse (.missingMark mark)
  | some (taken, after) =>
    takeChecked refused taken (after.drop mark.length)
    return taken

/-- Up to two more quotation marks at the end of a long text belong to it. -/
def extraMarks (mark : Char) (taken : List Char) : Reader (List Char) := do
  let extra := ((← get).take 2).takeWhile (· = mark)
  modify (·.drop extra.length)
  return taken ++ extra

/-- A text, from its first quotation mark on. -/
def textValue : Reader (List Char) := do
  if ← takeText "\"\"\"" then
    let _ ← takeText "\n"
    extraMarks '"' (← basicRest true)
  else if ← takeText "'''" then
    let _ ← takeText "\n"
    extraMarks '\'' (← literalRest "'''" isLongControl)
  else if ← takeText "\"" then basicRest false
  else
    let _ ← takeText "'"
    literalRest "'" isControl

/-! ## Keys -/

/-- One name of a key. -/
def keyPart : Reader String := do
  match ← get with
  | '"' :: rest =>
    set rest
    return String.ofList (← basicRest false)
  | '\'' :: rest =>
    set rest
    return String.ofList (← literalRest "'" isControl)
  | rest =>
    let name := rest.takeWhile isBareKey
    if name.isEmpty then refuse .keyStart
    set (rest.drop name.length)
    return String.ofList name

/-- The names of a key after the first `key`. -/
def keyRest : Nat → Key → Reader Key
  | 0, key => return key
  | fuel + 1, key => do
    skip isLineBlank
    if ← takeText "." then
      skip isLineBlank
      let part ← keyPart
      keyRest fuel (key ++ [part])
    else return key

/-- A key and the blanks after it. -/
def keyOf : Reader Key := do
  let part ← keyPart
  keyRest ((← get).length + 1) [part]

/-! ## Numbers, dates and times -/

/-- A fixed number of digits with a value in a range. -/
def fixedDigits (count low high : Nat) (text : List Char) : Option (Nat × List Char) :=
  let digits := text.take count
  let value := digits.foldl (fun n c => n * 10 + (c.toNat - '0'.toNat)) 0
  if digits.length = count && digits.all Char.isDigit && low ≤ value && value ≤ high then
    some (value, text.drop count)
  else none

/-- Takes one character of a class. -/
def oneOf (p : Char → Bool) : List Char → Option (List Char)
  | c :: rest => if p c then some rest else none
  | [] => none

def dayText (text : List Char) : Option (Day × List Char) := do
  let (year, text) ← fixedDigits 4 0 9999 text
  let text ← oneOf (· = '-') text
  let (month, text) ← fixedDigits 2 1 12 text
  let text ← oneOf (· = '-') text
  let (day, text) ← fixedDigits 2 1 31 text
  return (⟨year, month, day⟩, text)

/-- The microseconds of a fraction of a second: its first six digits. -/
def microsOf (digits : List Char) : Nat :=
  let six := (digits ++ List.replicate 6 '0').take 6
  six.foldl (fun n c => n * 10 + (c.toNat - '0'.toNat)) 0

/-- A time of day. -/
def clockText (text : List Char) : Option (Clock × List Char) := do
  let (hour, text) ← fixedDigits 2 0 23 text
  let text ← oneOf (· = ':') text
  let (minute, text) ← fixedDigits 2 0 59 text
  let text ← oneOf (· = ':') text
  let (second, text) ← fixedDigits 2 0 59 text
  let fraction := ((oneOf (· = '.') text).getD []).takeWhile Char.isDigit
  if fraction.isEmpty then return (⟨hour, minute, second, 0⟩, text)
  else return (⟨hour, minute, second, microsOf fraction⟩, text.drop (fraction.length + 1))

/-- A distance from universal time in minutes, if there is one. -/
def zoneText (text : List Char) : Option Int × List Char :=
  match text with
  | 'Z' :: rest => (some 0, rest)
  | 'z' :: rest => (some 0, rest)
  | sign :: rest =>
    let zone : Option (Int × List Char) := do
      if sign ≠ '+' && sign ≠ '-' then none
      let (hours, rest) ← fixedDigits 2 0 23 rest
      let rest ← oneOf (· = ':') rest
      let (minutes, rest) ← fixedDigits 2 0 59 rest
      let total : Int := hours * 60 + minutes
      return (if sign = '-' then -total else total, rest)
    match zone with
    | some (minutes, rest) => (some minutes, rest)
    | none => (none, text)
  | [] => (none, text)

def instantText (text : List Char) : Option (Moment × List Char) := do
  let (day, rest) ← dayText text
  let clock := do
    let rest ← oneOf (fun c => c = 'T' || c = 't' || c = ' ') rest
    clockText rest
  match clock with
  | none => return (.day day, rest)
  | some (clock, rest) =>
    let (zone, rest) := zoneText rest
    return (.instant day clock zone, rest)

/-- Is the day of a moment one of the calendar? -/
def Moment.isValid : Moment → Bool
  | .day d => d.isValid
  | .clock _ => true
  | .instant d _ _ => d.isValid

/-- Digits of a class, with single underscores between them; the underscores are dropped. -/
def groupedDigits (p : Char → Bool) : List Char → List Char × List Char
  | '_' :: c :: rest =>
    if p c then
      let (digits, after) := groupedDigits p rest
      (c :: digits, after)
    else ([], '_' :: c :: rest)
  | c :: rest =>
    if p c then
      let (digits, after) := groupedDigits p rest
      (c :: digits, after)
    else ([], c :: rest)
  | [] => ([], [])

/-- Digits of a class that start with a digit. -/
def digitsOf (p : Char → Bool) (text : List Char) : Option (List Char × List Char) :=
  if (oneOf p text).isSome then some (groupedDigits p text) else none

def prefixedInteger (text : List Char) : Option (Nat × List Char) :=
  let isHex := fun (c : Char) =>
    c.isDigit || ('a' ≤ c && c ≤ 'f') || ('A' ≤ c && c ≤ 'F')
  let value := fun (base : Nat) (digits : List Char) =>
    digits.foldl (fun n c => n * base + Text.hexValue c) 0
  match text with
  | '0' :: 'x' :: rest => (digitsOf isHex rest).map fun (digits, after) => (value 16 digits, after)
  | '0' :: 'b' :: rest =>
    (digitsOf (fun c => c = '0' || c = '1') rest).map fun (digits, after) => (value 2 digits, after)
  | '0' :: 'o' :: rest =>
    (digitsOf (fun c => '0' ≤ c && c ≤ '7') rest).map fun (digits, after) => (value 8 digits, after)
  | _ => none

/-- A number in base ten: its sign, the digits before the point, and, unless it is an integer, the
digits after the point and the exponent. -/
structure NumberText where
  isNegative : Bool
  whole : List Char
  fraction : Option (List Char × Int)

def digitsValue (digits : List Char) : Nat :=
  digits.foldl (fun n c => n * 10 + (c.toNat - '0'.toNat)) 0

def numberText (text : List Char) : Option (NumberText × List Char) := do
  let isNegative := text.head? = some '-'
  let text := (oneOf (fun c => c = '+' || c = '-') text).getD text
  let (whole, text) ← match text with
    | '0' :: rest => some (['0'], rest)
    | text => digitsOf Char.isDigit text
  let (fraction, text) := match text with
    | '.' :: rest => match digitsOf Char.isDigit rest with
      | some (digits, after) => (some digits, after)
      | none => (none, text)
    | text => (none, text)
  let exponent : Option (Int × List Char) := do
    let rest ← oneOf (fun c => c = 'e' || c = 'E') text
    let sign := rest.head?
    let rest := (oneOf (fun c => c = '+' || c = '-') rest).getD rest
    let (digits, after) ← digitsOf Char.isDigit rest
    let value : Int := digitsValue digits
    return (if sign = some '-' then -value else value, after)
  match fraction, exponent with
  | none, none => return (⟨isNegative, whole, none⟩, text)
  | digits, none => return (⟨isNegative, whole, some (digits.getD [], 0)⟩, text)
  | digits, some (power, after) => return (⟨isNegative, whole, some (digits.getD [], power)⟩, after)

def NumberText.value (n : NumberText) : Except Trouble Value :=
  match n.fraction with
  | some (digits, power) =>
    let x := Binary64.ofDecimal (digitsValue (n.whole ++ digits)) (power - digits.length)
    .ok (.decimal (if n.isNegative then x.neg else x))
  | none =>
    if n.whole.length > Script.maxDecimalDigits then .error (.longInteger n.whole.length)
    else
      let value : Int := digitsValue n.whole
      .ok (.integer (if n.isNegative then -value else value))

def wordValues : List (String × Value) :=
  let infinite := Value.decimal Binary64.infinity
  let notANumber := Value.decimal ⟨0x7FF8000000000000⟩
  [("inf", infinite), ("nan", notANumber), ("-inf", .decimal Binary64.infinity.neg),
    ("+inf", infinite), ("-nan", notANumber), ("+nan", notANumber)]

/-- A date, a time, a number or a word. -/
def plainValue : Reader Value := do
  let text ← get
  match instantText text with
  | some (moment, rest) =>
    if !moment.isValid then refuse .moment
    set rest
    return .moment moment
  | none => match clockText text with
    | some (clock, rest) =>
      set rest
      return .moment (.clock clock)
    | none => match prefixedInteger text with
      | some (n, rest) =>
        set rest
        return .integer n
      | none => match numberText text with
        | some (n, rest) =>
          set rest
          n.value
        | none => match wordValues.find? fun (word, _) => word.toList.isPrefixOf text with
          | some (word, value) =>
            modify (·.drop word.length)
            return value
          | none => refuse .value

/-! ## Values -/

mutual

/-- A value, nested at most `fuel` deep. -/
def valueOf : Nat → Reader Value
  | 0 => refuse .value
  | fuel + 1 => do
    match ← get with
    | '"' :: _ => return .text (String.ofList (← textValue))
    | '\'' :: _ => return .text (String.ofList (← textValue))
    | '[' :: rest =>
      set rest
      gaps (rest.length + 1)
      if ← takeText "]" then return .list []
      else listRest fuel []
    | '\x7b' :: rest =>
      set rest
      skip isLineBlank
      if ← takeText "\x7d" then return .table []
      else tableRest fuel ⟨[], []⟩
    | _ =>
      if ← takeText "true" then return .flag true
      else if ← takeText "false" then return .flag false
      else plainValue

/-- The rest of a list after the items `taken`. -/
def listRest : Nat → List Value → Reader Value
  | 0, _ => refuse .unclosedList
  | fuel + 1, taken => do
    let value ← valueOf fuel
    let taken := taken ++ [value]
    gaps ((← get).length + 1)
    if ← takeText "]" then return .list taken
    if !(← takeText ",") then refuse .unclosedList
    gaps ((← get).length + 1)
    if ← takeText "]" then return .list taken
    else listRest fuel taken

/-- The rest of a table written in one piece. -/
def tableRest : Nat → InlineTable → Reader Value
  | 0, _ => refuse .unclosedTable
  | fuel + 1, table => do
    let key ← keyOf
    if !(← takeText "=") then refuse .equals
    skip isLineBlank
    let value ← valueOf fuel
    let table ← lift (table.set key value)
    skip isLineBlank
    if ← takeText "\x7d" then return .table table.entries
    if !(← takeText ",") then refuse .unclosedTable
    skip isLineBlank
    tableRest fuel table

end

/-! ## Statements -/

/-- A statement that starts with a given character. -/
def statement (first : Char) (d : Document) : Reader Document := do
  if first = '[' then
    if ← takeText "[[" then
      skip isLineBlank
      let key ← keyOf
      let d ← lift (d.openListTable key)
      if !(← takeText "]]") then refuse .tableListEnd
      return d
    else
      modify (·.drop 1)
      skip isLineBlank
      let key ← keyOf
      let d ← lift (d.openTable key)
      if !(← takeText "]") then refuse .tableEnd
      return d
  else if isBareKey first || first = '"' || first = '\'' then
    let key ← keyOf
    if !(← takeText "=") then refuse .equals
    skip isLineBlank
    let value ← valueOf (2 * (← get).length + 2)
    lift (d.set key value)
  else if first = '#' then return d
  else refuse .statement

/-- The statements of a document, at most `fuel` lines. -/
def statements : Nat → Document → Reader Document
  | 0, d => return d
  | fuel + 1, d => do
    skip isLineBlank
    match ← get with
    | [] => return d
    | '\n' :: rest =>
      set rest
      statements fuel d
    | first :: _ =>
      let d ← statement first d
      skip isLineBlank
      comment
      match ← get with
      | [] => return d
      | '\n' :: rest =>
        set rest
        statements fuel d
      | _ => refuse .afterStatement

/-- Why a configuration file cannot be read. -/
inductive ReadError where
  /-- A problem at a line and column, or at the end. -/
  | at (problem : Problem) (place : Option (Nat × Nat))
  | longInteger (digits : Nat)
deriving DecidableEq

def ReadError.message : ReadError → String
  | .at problem none => problem.message ++ " (at end of document)"
  | .at problem (some (line, column)) =>
    problem.message ++ " (at line " ++ toString line ++ ", column " ++ toString column ++ ")"
  | .longInteger digits =>
    "Exceeds the limit (4300 digits) for integer string conversion: value has " ++
      toString digits ++ " digits; use sys.set_int_max_str_digits() to increase the limit"

/-- The line and column after some characters, counted from one. -/
def placeAfter (before : List Char) : Nat × Nat :=
  (before.count '\n' + 1, (before.reverse.takeWhile (· ≠ '\n')).length + 1)

/-- A line end of two characters counts as one. -/
def joinLineEnds : List Char → List Char
  | '\r' :: '\n' :: rest => '\n' :: joinLineEnds rest
  | c :: rest => c :: joinLineEnds rest
  | [] => []

def read (text : String) : Except ReadError Entries :=
  let source := joinLineEnds text.toList
  match (statements (source.length + 1) .empty).run source with
  | .ok (d, _) => .ok d.entries
  | .error (.longInteger digits) => .error (.longInteger digits)
  | .error (.at problem left) =>
    .error (.at problem (if left = 0 then none else some (placeAfter (source.take (source.length - left)))))

end RobotKit.Config
