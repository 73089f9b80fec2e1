import RobotKit.Script.Escape

/-!
# Formatted strings

A formatted string mixes literal text with fields in braces. `Template.split` cuts its body into
these pieces; the expressions of the fields stay text here and are read by the grammar.
-/

namespace RobotKit.Script

open RobotKit.Text

/-- A piece of a formatted string: text, or a field with the text of its expression, its
conversion and the pieces of its format. -/
inductive Piece where
  | text (value : List CodePoint)
  | field (source : List Char) (conversion : Option Conversion) (format : Option (List Piece))

namespace Template

/-- A run of literal text (raw, in reverse), whether a doubled brace ended it, and the rest. The
rest is empty, starts with a brace, or follows a doubled brace. Inside a format, braces are never
doubled. -/
def literalRun (raw nested : Bool) :
    Nat → List Char → List Char → Option (List Char × Bool × List Char)
  | 0, _, _ => none
  | _, before, [] => some (before, false, [])
  | fuel + 1, before, c :: rest =>
    if c = '\\' && !raw then
      match rest with
      | 'N' :: '\x7b' :: name =>
        let inner := name.takeWhile (· ≠ '\x7d')
        literalRun raw nested fuel
          ((inner ++ (name.drop inner.length).take 1).reverse ++ ['\x7b', 'N', '\\'] ++ before)
          (name.drop (inner.length + 1))
      | d :: after =>
        if d = '\x7b' || d = '\x7d' then brace ('\\' :: before) d after
        else literalRun raw nested fuel (d :: '\\' :: before) after
      | [] => some ('\\' :: before, false, [])
    else if c = '\x7b' || c = '\x7d' then brace before c rest
    else literalRun raw nested fuel (c :: before) rest
where
  /-- Ends the run at a brace. -/
  brace (before : List Char) (c : Char) (rest : List Char) :
      Option (List Char × Bool × List Char) :=
    if nested then some (before, false, c :: rest)
    else if rest.head? = some c then some (c :: before, true, rest.drop 1)
    else if c = '\x7d' then none
    else some (before, false, c :: rest)

/-- What surrounds a position in the expression of a field: the open brackets (innermost first,
as the brackets that close them), and the mark of an open string with whether it is a long one. -/
structure FieldState where
  brackets : List Char
  string : Option (Char × Bool)

/-- The text of the expression of a field (in reverse), and the rest, which starts with the
character that ends the expression. Backslashes and comment signs are refused. -/
def fieldSource : Nat → FieldState → List Char → List Char → Option (List Char × List Char)
  | 0, _, _, _ => none
  | _, _, _, [] => none
  | fuel + 1, state, before, c :: rest =>
    if c = '\\' then none
    else match state.string with
      | some (mark, long) =>
        if c = mark then
          if !long then fieldSource fuel { state with string := none } (c :: before) rest
          else if rest.take 2 = [mark, mark] then
            fieldSource fuel { state with string := none } (c :: c :: c :: before) (rest.drop 2)
          else fieldSource fuel state (c :: before) rest
        else fieldSource fuel state (c :: before) rest
      | none =>
        if c = '\'' || c = '"' then
          if rest.take 2 = [c, c] then
            fieldSource fuel { state with string := some (c, true) } (c :: c :: c :: before)
              (rest.drop 2)
          else fieldSource fuel { state with string := some (c, false) } (c :: before) rest
        else if c = '\x7b' || c = '[' || c = '(' then
          if state.brackets.length ≥ maxBrackets then none
          else
            let close := if c = '\x7b' then '\x7d' else if c = '[' then ']' else ')'
            fieldSource fuel { state with brackets := close :: state.brackets } (c :: before) rest
        else if c = '#' then none
        else if state.brackets.isEmpty && ['!', ':', '\x7d', '=', '<', '>'].contains c then
          if rest.head? = some '=' && ['!', '=', '<', '>'].contains c then
            fieldSource fuel state ('=' :: c :: before) (rest.drop 1)
          else if c = '<' || c = '>' then fieldSource fuel state (c :: before) rest
          else some (before, c :: rest)
        else if c = ']' || c = '\x7d' || c = ')' then
          match state.brackets with
          | expected :: outer =>
            if expected = c then fieldSource fuel { state with brackets := outer } (c :: before) rest
            else none
          | [] => none
        else fieldSource fuel state (c :: before) rest

/-- Is the character white space of ASCII? -/
def isAsciiBlank (c : Char) : Bool := c = ' ' || (9 ≤ c.toNat && c.toNat ≤ 13)

/-- Is the text more than blanks? -/
def hasContent (source : List Char) : Bool :=
  !source.all fun c => c = ' ' || c = '\t' || c = '\n' || c = '\x0c'

/-- The conversion in front of the text, if there is one, and what follows. -/
def conversionPart (cs : List Char) : Option (Option Conversion × List Char) :=
  match cs with
  | '!' :: 's' :: rest => some (some .str, rest)
  | '!' :: 'r' :: rest => some (some .repr, rest)
  | '!' :: 'a' :: rest => some (some .ascii, rest)
  | '!' :: _ => none
  | _ => some (none, cs)

/-- The deepest nesting of formats that may hold fields. -/
def maxDepth : Nat := 2

/-- The pieces of a formatted string and what follows them. At depth zero they end with the text;
inside a format they end before a closing brace. -/
def pieces (raw : Bool) : Nat → Nat → List Char → Option (List Piece × List Char)
  | 0, _, _ => none
  | fuel + 1, depth, cs => do
    let (reversed, doubled, rest) ← literalRun raw (depth > 0) (cs.length + 1) [] cs
    let text ← decodeText raw reversed.reverse
    let literal := if text.isEmpty then [] else [Piece.text text]
    if doubled then
      let (more, rest) ← pieces raw fuel depth rest
      some (literal ++ more, rest)
    else match rest with
      | '\x7b' :: inside =>
        if depth ≥ maxDepth then none
        else
          let (reversed, rest) ← fieldSource (inside.length + 1) ⟨[], none⟩ [] inside
          let source := reversed.reverse
          if !hasContent source then none
          else
            let (shown, rest) := match rest with
              | '=' :: after =>
                let blanks := after.takeWhile isAsciiBlank
                (some (source ++ '=' :: blanks), after.drop blanks.length)
              | _ => (none, rest)
            let (conversion, rest) ← conversionPart rest
            let (format, rest) ← match rest with
              | ':' :: after => do
                let (inner, rest) ← pieces raw fuel (depth + 1) after
                pure (some inner, rest)
              | _ => pure (none, rest)
            let conversion := if shown.isSome && conversion.isNone && format.isNone
              then some Conversion.repr else conversion
            let label := match shown with
              | some text => [Piece.text (text.map CodePoint.ofChar)]
              | none => []
            match rest with
            | '\x7d' :: after => do
              let (more, rest) ← pieces raw fuel depth after
              some (literal ++ label ++ .field source conversion format :: more, rest)
            | _ => none
      | _ => some (literal, rest)

/-- The pieces of the body of a formatted string. -/
def split (raw : Bool) (body : List Char) : Option (List Piece) := do
  let (result, rest) ← pieces raw (body.length + 1) 0 body
  if rest.isEmpty then some result else none

end Template

end RobotKit.Script
