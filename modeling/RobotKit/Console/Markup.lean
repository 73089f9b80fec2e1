import RobotKit.Text.Blank

/-!
# Markup

Texts for the console carry style tags in square brackets: `[bold]…[/bold]`. The console has no
styles, so tags only vanish; but a closing tag has to match an open one. A backslash before a tag
makes it plain text.
-/

namespace RobotKit.Console

open RobotKit.Text

/-- A tag: its name, and what follows the first equals sign. -/
structure Tag where
  name : List Char
  parameters : Option (List Char)

/-- The tag as it is written. -/
def Tag.write (tag : Tag) : String :=
  "[" ++ String.ofList tag.name ++
    ((tag.parameters.map fun p => "=" ++ String.ofList p).getD "") ++ "]"

/-- A piece of marked-up text: plain text, or a tag with its position. -/
inductive MarkupPiece where
  | text (value : List Char)
  | tag (position : Nat) (tag : Tag)

/-- Why a markup text cannot be shown. -/
inductive MarkupError where
  /-- A closing tag names no open tag. -/
  | unmatched (tag : String) (position : Nat)
  /-- A closing tag without name finds no open tag. -/
  | nothingOpen (position : Nat)
deriving DecidableEq

def MarkupError.message : MarkupError → String
  | .unmatched tag position =>
    "closing tag '" ++ tag ++ "' at position " ++ toString position ++ " doesn't match any open tag"
  | .nothingOpen position =>
    "closing tag '[/]' at position " ++ toString position ++ " has nothing to close"

/-- May the character start the name of a tag? -/
def isTagStart (c : Char) : Bool := ('a' ≤ c && c ≤ 'z') || c = '#' || c = '/' || c = '@'

/-- The text of a tag whose opening bracket has been read: up to the next closing bracket, without
another opening bracket before it. -/
def tagBody (cs : List Char) : Option (List Char) :=
  let body := cs.takeWhile fun c => c ≠ ']' && c ≠ '['
  if (cs.head?.map isTagStart).getD false && (cs.drop body.length).head? = some ']' then some body
  else none

/-- The tag with this text between its brackets. -/
def tagOf (body : List Char) : Tag :=
  let name := body.takeWhile (· ≠ '=')
  { name, parameters := if name.length < body.length then some (body.drop (name.length + 1)) else none }

/-- The pieces of a marked-up text from a position on; `plain` is the plain text before it, in
reverse. -/
def markupPieces : Nat → Nat → List Char → List Char → List MarkupPiece
  | 0, _, plain, _ => flush plain
  | _, _, plain, [] => flush plain
  | fuel + 1, position, plain, c :: rest =>
    let escapes := (c :: rest).takeWhile (· = '\\')
    let after := (c :: rest).drop escapes.length
    let body := match after with
      | '[' :: inside => tagBody inside
      | _ => none
    match body with
    | none => markupPieces fuel (position + 1) (c :: plain) rest
    | some body =>
      let next := position + escapes.length + body.length + 2
      let following := after.drop (body.length + 2)
      let kept := List.replicate (escapes.length / 2) '\\'
      let literal := if kept.isEmpty then [] else [.text kept]
      if escapes.length % 2 = 1 then
        flush plain ++ literal ++ .text ('[' :: body ++ [']']) ::
          markupPieces fuel next [] following
      else
        flush plain ++ literal ++ .tag (position + escapes.length) (tagOf body) ::
          markupPieces fuel next [] following
where
  /-- A piece for the plain text read so far. -/
  flush (plain : List Char) : List MarkupPiece :=
    if plain.isEmpty then [] else [.text plain.reverse]

/-- The style attributes, in the order in which a style lists them, with their short names. -/
def styleAttributes : List (String × List String) :=
  [("bold", ["b"]), ("dim", ["d"]), ("italic", ["i"]), ("underline", ["u"]), ("blink", []),
    ("blink2", []), ("reverse", ["r"]), ("conceal", ["c"]), ("strike", ["s"]),
    ("underline2", ["uu"]), ("frame", []), ("encircle", []), ("overline", ["o"])]

/-- The full name of a style attribute. -/
def attributeName? (word : String) : Option String :=
  (styleAttributes.find? fun entry => entry.1 = word || entry.2.contains word).map (·.1)

/-- The attributes that a list of words sets or unsets, if it names nothing else. -/
def styleSettings : List String → Option (List (String × Bool))
  | [] => some []
  | "not" :: word :: rest => do
    let name ← attributeName? word
    return (name, false) :: (← styleSettings rest)
  | word :: rest => do
    let name ← attributeName? word
    return (name, true) :: (← styleSettings rest)

def splitWords (cs : List Char) : List (List Char) :=
  let step := fun (c : Char) (state : List (List Char) × Bool) =>
    if isBlank c then (state.1, true)
    else match state with
      | (word :: words, false) => ((c :: word) :: words, false)
      | (words, _) => ([c] :: words, false)
  (cs.foldr step ([], true)).1

/-- The normal name of a style: attributes in their order, or the text itself in lower case. -/
def normalStyle (name : List Char) : List Char :=
  let lower := name.map Char.toLower
  match styleSettings ((splitWords lower).map String.ofList) with
  | some [] => "none".toList
  | some settings =>
    let shown := styleAttributes.filterMap fun entry =>
      (settings.reverse.lookup entry.1).map fun value => if value then entry.1 else "not " ++ entry.1
    (" ".intercalate shown).toList
  | none => trim lower

/-- Removes the backslash before an opening bracket. -/
def unescapeBrackets : List Char → List Char
  | '\\' :: '[' :: rest => '[' :: unescapeBrackets rest
  | c :: rest => c :: unescapeBrackets rest
  | [] => []

/-- The plain text of the pieces, with the open styles, innermost first. -/
def showPieces : List (List Char) → List MarkupPiece → Except MarkupError (List Char)
  | _, [] => .ok []
  | styles, .text value :: rest => do return unescapeBrackets value ++ (← showPieces styles rest)
  | styles, .tag position tag :: rest =>
    match tag.name with
    | '/' :: closing =>
      let name := trim closing
      if name.isEmpty then
        match styles with
        | [] => .error (.nothingOpen position)
        | _ :: outer => showPieces outer rest
      else if styles.contains (normalStyle name) then
        showPieces (styles.erase (normalStyle name)) rest
      else .error (.unmatched tag.write position)
    | name => showPieces (normalStyle name :: styles) rest

/-- The characters that the console drops: bell, backspace, vertical tab, form feed and carriage
return. -/
def isDropped (c : Char) : Bool := [7, 8, 11, 12, 13].contains c.toNat

/-- The plain text of a marked-up text. -/
def plainText (markup : String) : Except MarkupError (List Char) := do
  let cs := markup.toList
  let shown ← if cs.contains '[' then showPieces [] (markupPieces (cs.length + 1) 0 [] cs)
    else .ok cs
  return shown.filter (!isDropped ·)

end RobotKit.Console
