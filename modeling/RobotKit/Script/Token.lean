import RobotKit.Script.Syntax
import RobotKit.Text.Identifier
import RobotKit.Text.Normal

/-!
# Tokens

A script is cut into names, keywords, literals and operators; the layout becomes tokens for the
end of a line and for a deeper or shallower indentation. `tokenize` refuses a text whose
characters, indentation, brackets, numbers or string ends are wrong.
-/

namespace RobotKit.Script

open RobotKit.Decimal RobotKit.Text

/-- A token. A string keeps its letters and the raw text between its marks. -/
inductive Token where
  | name (text : String)
  | keyword (text : String)
  | number (value : Literal)
  | string (letters body : List Char)
  | op (text : String)
  | newline
  | indent
  | dedent
deriving DecidableEq

def keywords : List String :=
  ["False", "None", "True", "and", "as", "assert", "async", "await", "break", "class", "continue",
    "def", "del", "elif", "else", "except", "finally", "for", "from", "global", "if", "import", "in",
    "is", "lambda", "nonlocal", "not", "or", "pass", "raise", "return", "try", "while", "with", "yield"]

/-! ## Words and strings -/

/-- May the character be part of a word? Every character beyond ASCII may; whether the word is an
identifier is settled when it is complete. -/
def isWordChar (c : Char) : Bool := c.isAlphanum || c = '_' || 128 ≤ c.toNat

/-- The token of a word: a keyword as it is written, any other identifier in normal form, which is
a word again. -/
def wordToken (word : List Char) : Option Token :=
  if word.all (·.toNat < 128) then
    let text := String.ofList word
    some (if keywords.contains text then .keyword text else .name text)
  else
    let normal := Normal.normalize word
    if isIdentifier word && normal.all isWordChar then some (.name (String.ofList normal))
    else none

/-- Are these letters allowed in front of a string? -/
def isStringLetters (letters : List Char) : Bool :=
  ["", "b", "u", "r", "f", "br", "rb", "fr", "rf"].contains
    (String.ofList (letters.map Char.toLower))

/-- The body of a string that ends at the next single `mark`, and what follows it. A line end
stands in the body only after a backslash. -/
def shortString (mark : Char) : List Char → Option (List Char × List Char)
  | [] => none
  | '\\' :: c :: rest =>
    (shortString mark rest).map fun (body, after) => ('\\' :: c :: body, after)
  | c :: rest =>
    if c = mark then some ([], rest)
    else if c = '\n' || c = '\\' then none
    else (shortString mark rest).map fun (body, after) => (c :: body, after)

/-- The body of a string that ends at the next three `mark`s, and what follows it. -/
def longString (mark : Char) : List Char → Option (List Char × List Char)
  | [] => none
  | '\\' :: c :: rest =>
    (longString mark rest).map fun (body, after) => ('\\' :: c :: body, after)
  | c :: rest =>
    if c = mark && rest.take 2 = [mark, mark] then some ([], rest.drop 2)
    else if c = '\\' then none
    else (longString mark rest).map fun (body, after) => (c :: body, after)

/-- The body of a string whose first mark has just been read, and what follows it. -/
def stringBody (mark : Char) (rest : List Char) : Option (List Char × List Char) :=
  if rest.take 2 = [mark, mark] then longString mark (rest.drop 2) else shortString mark rest

/-! ## Numbers -/

/-- Digits with single underscores between them, and what follows. -/
def digitRun (isDigit : Char → Bool) : List Char → Option (List Char × List Char)
  | [] => some ([], [])
  | c :: rest =>
    if isDigit c then (digitRun isDigit rest).map fun (digits, after) => (c :: digits, after)
    else if c = '_' then
      if (rest.head?.map isDigit).getD false then digitRun isDigit rest else none
    else some ([], c :: rest)

/-- Digits if the text starts with one, else none of them. -/
def optionalDigits (cs : List Char) : Option (List Char × List Char) :=
  if (cs.head?.map Char.isDigit).getD false then digitRun Char.isDigit cs else some ([], cs)

/-- Does the text start with the word, which ends there? -/
def startsWithWord (word : String) (cs : List Char) : Bool :=
  word.toList.isPrefixOf cs && !((cs.drop word.length).head?.map isWordChar).getD false

/-- A number may be followed directly by a word operator, and by no other word. -/
def endsNumber (cs : List Char) : Bool :=
  match cs with
  | [] => true
  | c :: _ =>
    !isWordChar c || ["and", "else", "for", "or", "not"].any (startsWithWord · cs) ||
      ["if", "in", "is"].any (·.toList.isPrefixOf cs)

def digitsValue (base : Nat) (digits : List Char) : Nat :=
  let value := fun (c : Char) =>
    if c.isDigit then c.toNat - '0'.toNat else c.toLower.toNat - 'a'.toNat + 10
  digits.foldl (fun n c => n * base + value c) 0

/-- The most digits that a decimal integer may be written with. -/
def maxDecimalDigits : Nat := 4300

/-- An integer in base 2, 8 or 16 after its two-character mark. -/
def basedNumber (base : Nat) (isDigit : Char → Bool) (cs : List Char) :
    Option (Literal × List Char) := do
  let (digits, rest) ← digitRun isDigit cs
  if digits.isEmpty || (rest.head?.map Char.isDigit).getD false || !endsNumber rest then none
  else some (.int (digitsValue base digits), rest)

/-- The exponent part of a number: its value if there is one, and what follows. An `e` that
starts a word is no exponent. -/
def exponentPart (cs : List Char) : Option (Option Int × List Char) :=
  match cs with
  | e :: rest =>
    if e = 'e' || e = 'E' then
      match rest with
      | '+' :: digits => signed 1 digits
      | '-' :: digits => signed (-1) digits
      | c :: _ => if c.isDigit then signed 1 rest else some (none, cs)
      | [] => some (none, cs)
    else some (none, cs)
  | [] => some (none, cs)
where
  /-- The digits of an exponent with a given sign. -/
  signed (sign : Int) (cs : List Char) : Option (Option Int × List Char) := do
    let (digits, rest) ← optionalDigits cs
    if digits.isEmpty then none else some (some (sign * digitsValue 10 digits), rest)

/-- A decimal number: an integer, a fraction or an imaginary number. -/
def decimalNumber (cs : List Char) : Option (Literal × List Char) := do
  let (whole, rest) ← optionalDigits cs
  let (fraction, rest) ← match rest with
    | '.' :: after => do
      let (digits, rest) ← optionalDigits after
      pure (some digits, rest)
    | _ => pure (none, rest)
  let (power, rest) ← exponentPart rest
  let places := fraction.getD []
  let value := Binary64.ofDecimal (digitsValue 10 (whole ++ places)) (power.getD 0 - places.length)
  let isFraction := fraction.isSome || power.isSome
  match rest with
  | c :: after =>
    if c = 'j' || c = 'J' then
      if endsNumber after then some (.imaginary value, after) else none
    else finish whole isFraction value rest
  | [] => finish whole isFraction value rest
where
  /-- Decides between an integer and a fraction when no imaginary mark follows. An integer other
  than zero does not start with the digit zero. -/
  finish (whole : List Char) (isFraction : Bool) (value : Binary64) (rest : List Char) :
      Option (Literal × List Char) :=
    if !endsNumber rest then none
    else if isFraction then some (.float value, rest)
    else if whole.head? = some '0' then
      if whole.all (· = '0') then some (.int 0, rest) else none
    else if whole.length > maxDecimalDigits then none
    else some (.int (digitsValue 10 whole), rest)

def isHexDigit (c : Char) : Bool :=
  c.isDigit || ('a' ≤ c && c ≤ 'f') || ('A' ≤ c && c ≤ 'F')

/-- A number at the start of the text. -/
def scanNumber (cs : List Char) : Option (Literal × List Char) :=
  match cs with
  | '0' :: mark :: rest =>
    if mark = 'x' || mark = 'X' then basedNumber 16 isHexDigit rest
    else if mark = 'o' || mark = 'O' then basedNumber 8 (fun c => '0' ≤ c && c ≤ '7') rest
    else if mark = 'b' || mark = 'B' then basedNumber 2 (fun c => c = '0' || c = '1') rest
    else decimalNumber cs
  | _ => decimalNumber cs

/-! ## Operators and layout -/

/-- The operators and delimiters, longer ones first. -/
def operators : List String :=
  ["**=", "//=", ">>=", "<<=", "...", "!=", "%=", "&=", "**", "*=", "+=", "-=", "->", "//", "/=",
    ":=", "<<", "<=", "<>", "==", ">=", ">>", "@=", "^=", "|=", "%", "&", "(", ")", "*", "+", ",", "-",
    ".", "/", ":", ";", "<", "=", ">", "@", "[", "]", "^", "\x7b", "|", "\x7d", "~"]

/-- The operator at the start of the text. -/
def scanOperator (cs : List Char) : Option (String × List Char) :=
  (operators.find? fun text => text.toList.isPrefixOf cs).map fun text =>
    (text, cs.drop text.length)

/-- The deepest nesting of brackets and of indentation. -/
def maxBrackets : Nat := 200

/-- The number of indentation levels at which a text is refused. -/
def maxIndents : Nat := 100

/-- The bracket that closes an opening one. -/
def closing (bracket : String) : Option String :=
  match bracket with
  | "(" => some ")"
  | "[" => some "]"
  | "\x7b" => some "\x7d"
  | _ => none

/-- The open brackets after an operator. -/
def trackBrackets (brackets : List String) (text : String) : Option (List String) :=
  match closing text with
  | some close => if brackets.length ≥ maxBrackets then none else some (close :: brackets)
  | none =>
    if [")", "]", "\x7d"].contains text then
      match brackets with
      | expected :: outer => if expected = text then some outer else none
      | [] => none
    else some brackets

/-- The width of the blanks that start a line, with tabs at multiples of eight and with tabs
counted as one column, and the text after them. A backslash joins the next line, and the blanks
before the first one decide. -/
def measureIndent (column narrow joined : Nat) : List Char → Option (Nat × Nat × List Char)
  | ' ' :: rest => measureIndent (column + 1) (narrow + 1) joined rest
  | '\t' :: rest => measureIndent ((column / 8 + 1) * 8) (narrow + 1) joined rest
  | '\x0c' :: rest => measureIndent 0 0 joined rest
  | '\\' :: '\n' :: rest =>
    if rest.isEmpty then none
    else measureIndent column narrow (if joined = 0 then column else joined) rest
  | '\\' :: _ => none
  | rest => some (if joined = 0 then (column, narrow, rest) else (joined, joined, rest))

/-- Leaves the indentation levels that are deeper than `column`. -/
def leaveIndents (column : Nat) : List (Nat × Nat) → List Token × List (Nat × Nat)
  | [] => ([], [])
  | level :: outer =>
    if column < level.1 then
      let (tokens, rest) := leaveIndents column outer
      (.dedent :: tokens, rest)
    else ([], level :: outer)

/-- The layout tokens in front of a line, and the levels after it. Both measures have to agree on
every comparison. -/
def adjustIndent (levels : List (Nat × Nat)) (column narrow : Nat) :
    Option (List Token × List (Nat × Nat)) :=
  let (here, hereNarrow) := levels.headD (0, 0)
  if column = here then if narrow = hereNarrow then some ([], levels) else none
  else if column > here then
    if levels.length + 1 ≥ maxIndents || narrow ≤ hereNarrow then none
    else some ([.indent], (column, narrow) :: levels)
  else
    let (tokens, rest) := leaveIndents column levels
    if rest.headD (0, 0) = (column, narrow) then some (tokens, rest) else none

/-- Skips a comment or the rest of a line with its end. -/
def dropLine (cs : List Char) : List Char := (cs.dropWhile (· ≠ '\n')).drop 1

/-- Is the character a blank inside a line? -/
def isInlineBlank (c : Char) : Bool := c = ' ' || c = '\t' || c = '\x0c'

/-- A word, number, string or operator at the start of the text, the open brackets after it, and
what follows. -/
def scanItem (brackets : List String) (cs : List Char) :
    Option (Token × List String × List Char) :=
  match cs with
  | [] => none
  | c :: rest =>
    if c = '\'' || c = '"' then
      (stringBody c rest).map fun (body, after) => (.string [] body, brackets, after)
    else if isWordChar c && !c.isDigit then
      let word := cs.takeWhile isWordChar
      let after := cs.drop word.length
      match after with
      | mark :: rest =>
        if (mark = '\'' || mark = '"') && isStringLetters word then
          (stringBody mark rest).map fun (body, after) => (.string word body, brackets, after)
        else (wordToken word).map fun token => (token, brackets, after)
      | [] => (wordToken word).map fun token => (token, brackets, after)
    else if c.isDigit || (c = '.' && (rest.head?.map Char.isDigit).getD false) then
      (scanNumber cs).map fun (value, after) => (.number value, brackets, after)
    else do
      let (text, after) ← scanOperator cs
      let brackets ← trackBrackets brackets text
      some (.op text, brackets, after)

/-- The tokens of a text, at most `fuel` steps long. `fresh` holds at the start of a line. -/
def scanTokens : Nat → Bool → List (Nat × Nat) → List String → List Char → Option (List Token)
  | 0, _, _, _, _ => none
  | fuel + 1, true, levels, brackets, cs => do
    let (column, narrow, rest) ← measureIndent 0 0 0 cs
    match rest with
    | '#' :: _ => scanTokens fuel true levels brackets (dropLine rest)
    | '\n' :: after => scanTokens fuel true levels brackets after
    | _ =>
      if brackets.isEmpty then
        let (layout, levels) ← adjustIndent levels column narrow
        (scanTokens fuel false levels brackets rest).map (layout ++ ·)
      else scanTokens fuel false levels brackets rest
  | fuel + 1, false, levels, brackets, cs =>
    match cs.dropWhile isInlineBlank with
    | [] => if brackets.isEmpty then some [] else none
    | '#' :: rest => scanTokens fuel false levels brackets (rest.dropWhile (· ≠ '\n'))
    | '\n' :: rest =>
      if brackets.isEmpty then (scanTokens fuel true levels brackets rest).map (.newline :: ·)
      else scanTokens fuel true levels brackets rest
    | '\\' :: '\n' :: rest =>
      if rest.isEmpty then none else scanTokens fuel false levels brackets rest
    | rest => do
      let (token, brackets, after) ← scanItem brackets rest
      (scanTokens fuel false levels brackets after).map (token :: ·)

/-- Every line end as a line feed, and one at the end of the text. -/
def normalLines (cs : List Char) : List Char :=
  let lines := unify cs
  if lines.getLast? = some '\n' || lines.isEmpty then lines else lines ++ ['\n']
where
  /-- Turns carriage returns, with or without a line feed after them, into line feeds. -/
  unify : List Char → List Char
    | '\r' :: '\n' :: rest => '\n' :: unify rest
    | '\r' :: rest => '\n' :: unify rest
    | c :: rest => c :: unify rest
    | [] => []

/-- The tokens of a script, or nothing if the text is no sequence of tokens. -/
def tokenize (text : List Char) : Option (List Token) :=
  let lines := normalLines text
  scanTokens (2 * lines.length + 2) true [] [] lines

end RobotKit.Script
