import RobotKit.Console.Markup
import RobotKit.Text.Cells

/-!
# Wrapping

A line that is too wide is broken before a word; a word wider than a line is cut. Blanks at a
break stay on the line that they end, as far as they fit.
-/

namespace RobotKit.Console

open RobotKit.Text

/-- Cuts a text into its lines at line feeds. -/
def splitLines (cs : List Char) : List (List Char) :=
  let step := fun (c : Char) (lines : List (List Char)) =>
    if c = '\n' then [] :: lines
    else match lines with
      | line :: rest => (c :: line) :: rest
      | [] => [[c]]
  cs.foldr step [[]]

/-- Replaces tabs by blanks up to the next multiple of `size` cells. -/
def expandTabs (size column : Nat) : List Char → List Char
  | [] => []
  | c :: rest =>
    if c = '\t' then
      let stop := (column / size + 1) * size
      List.replicate (stop - column) ' ' ++ expandTabs size stop rest
    else c :: expandTabs size (column + cellWidth c) rest

/-- The first word of a line with the blanks around it, and what follows; nothing if the line has
only blanks. -/
def nextWord (cs : List Char) : Option (List Char × List Char) :=
  let leading := cs.takeWhile isBlank
  let body := (cs.drop leading.length).takeWhile (!isBlank ·)
  let trailing := (cs.drop (leading.length + body.length)).takeWhile isBlank
  if body.isEmpty then none
  else
    let word := leading ++ body ++ trailing
    some (word, cs.drop word.length)

/-- The words of a line, each with the blanks after it (and the first with those before it). -/
def wordsOfLine : Nat → List Char → List (List Char)
  | 0, _ => []
  | fuel + 1, cs =>
    match nextWord cs with
    | some (word, rest) => word :: wordsOfLine fuel rest
    | none => []

/-- Cuts a word into pieces of at most `width` cells. `line` is the current piece in reverse and
`used` its width. -/
def chopWord (width : Nat) (line : List Char) (used : Nat) : List Char → List (List Char)
  | [] => [line.reverse]
  | c :: rest =>
    if used + cellWidth c > width then
      line.reverse :: chopWord width [c] (cellWidth c) rest
    else chopWord width (c :: line) (used + cellWidth c) rest

/-- The break positions of a line. `start` is the position of the next word, and `column` the
width of the current line so far. -/
def breakPositions (width : Nat) (start column : Nat) : List (List Char) → List Nat
  | [] => []
  | word :: rest =>
    let size := cells (trimEnd word)
    let next := start + word.length
    if column + size ≤ width then
      breakPositions width next (column + cells word) rest
    else if size > width then
      let pieces := chopWord width [] 0 word
      let starts := pieces.foldl
        (fun (state : List Nat × Nat) piece => (state.2 :: state.1, state.2 + piece.length))
        ([], start)
      starts.1.reverse.filter (· ≠ 0) ++
        breakPositions width next (cells (pieces.getLast?.getD [])) rest
    else if column ≠ 0 && start ≠ 0 then start :: breakPositions width next (cells word) rest
    else breakPositions width next column rest

/-- Cuts a text at positions counted from `base`. -/
def cutAt (base : Nat) : List Nat → List Char → List (List Char)
  | [], cs => [cs]
  | position :: rest, cs => cs.take (position - base) :: cutAt position rest (cs.drop (position - base))

/-- Removes blanks at the end of a line as far as it has more than `width` characters. -/
def cropBlanks (width : Nat) (line : List Char) : List Char :=
  let blanks := line.length - (trimEnd line).length
  line.take (line.length - min blanks (line.length - width))

/-- The longest start of a line that takes at most `width` cells; half a wide character becomes a
blank. -/
def cropCells (width : Nat) : List Char → List Char
  | [] => []
  | c :: rest =>
    if cellWidth c ≤ width then c :: cropCells (width - cellWidth c) rest
    else List.replicate width ' '

/-- The lines of one line of text at a given width. -/
def wrapLine (width : Nat) (line : List Char) : List (List Char) :=
  let expanded := expandTabs 8 0 line
  let breaks := breakPositions width 0 0 (wordsOfLine (expanded.length + 1) expanded)
  (cutAt 0 breaks expanded).map fun part =>
    let cropped := cropBlanks width part
    if cells cropped > width then cropCells width cropped else cropped

/-- The lines of a text at a given width. -/
def wrap (width : Nat) (cs : List Char) : List (List Char) :=
  (splitLines cs).flatMap (wrapLine width)

def consoleWidth : Nat := 80

/-- What the console shows for a marked-up text. -/
def render (markup : String) : Except MarkupError String := do
  let plain ← plainText markup
  return String.join ((wrap consoleWidth plain).map fun line => String.ofList line ++ "\n")

end RobotKit.Console
