import RobotKit.Text.Ranges
import RobotKit.Text.UnicodeTable

/-!
# Normalisation form KC

Two spellings of an identifier that differ only in compatibility variants or in the order and
composition of marks have one normal form: decompose fully, order the marks by combining class,
and compose again.
-/

namespace RobotKit.Text.Normal

/-- Decompositions from the lines of their table, counted from `next`. -/
def decompositionsFrom (next : Nat) : List (List Nat) → List (Nat × List Nat)
  | (distance :: parts) :: lines =>
    (next + distance, parts) :: decompositionsFrom (next + distance + 1) lines
  | _ => []

/-- The characters that decompose, with their parts. -/
def decompositions : Array (Nat × List Nat) :=
  let lines := (UnicodeTable.decompositionText.splitOn "\n").map readNumbers
  (decompositionsFrom 0 lines).toArray

/-- Runs with values, first and last, from their distances and lengths, counted from `next`. -/
def runsFrom (next : Nat) : List Nat → List (Nat × Nat × Nat)
  | distance :: extent :: value :: rest =>
    let last := next + distance + extent
    (next + distance, last, value) :: runsFrom (last + 1) rest
  | _ => []

/-- Runs of characters with one combining class. -/
def classes : Array (Nat × Nat × Nat) := (runsFrom 0 (readNumbers UnicodeTable.classText)).toArray

/-- The characters that their parts compose to. -/
def composites : Array (Nat × List Nat) :=
  let ranges := Ranges.ofText UnicodeTable.compositeText
  decompositions.filter fun (code, _) => ranges.contains code

/-- Is `code` in the run that starts at `first` and has `count` members? -/
def inRun (first count code : Nat) : Bool := first ≤ code && code < first + count

/-- The full decomposition of a code point. A Hangul syllable splits by arithmetic. -/
def decompose (code : Nat) : List Nat :=
  if inRun 0xAC00 11172 code then
    let index := code - 0xAC00
    let lead := 0x1100 + index / 588
    let vowel := 0x1161 + index % 588 / 28
    if index % 28 = 0 then [lead, vowel] else [lead, vowel, 0x11A7 + index % 28]
  else match decompositions.find? fun entry => entry.1 = code with
    | some entry => entry.2
    | none => [code]

/-- The canonical combining class; starters have class 0. -/
def combiningClass (code : Nat) : Nat :=
  match classes.find? fun (first, last, _) => first ≤ code && code ≤ last with
  | some (_, _, value) => value
  | none => 0

/-- Puts a mark before the later-class marks that end a reversed text. -/
def insertMark (code rank : Nat) : List Nat → List Nat
  | [] => [code]
  | last :: before =>
    if rank < combiningClass last then last :: insertMark code rank before
    else code :: last :: before

/-- Sorts each run of marks by combining class and keeps the order of equals. -/
def orderMarks (codes : List Nat) : List Nat :=
  let step := fun (before : List Nat) (code : Nat) =>
    let rank := combiningClass code
    if rank = 0 then code :: before else insertMark code rank before
  (codes.foldl step []).reverse

/-- The composite of two code points, if they have one. -/
def compose? (first second : Nat) : Option Nat :=
  if inRun 0x1100 19 first && inRun 0x1161 21 second then
    some (0xAC00 + ((first - 0x1100) * 21 + (second - 0x1161)) * 28)
  else if inRun 0xAC00 11172 first && (first - 0xAC00) % 28 = 0 && inRun 0x11A8 27 second then
    some (first + (second - 0x11A7))
  else
    let parts := decompose first ++ [second]
    (composites.find? fun entry => entry.2 = parts).map (·.1)

/-- A text in the course of composition: what is settled (in reverse), the last starter, and the
marks that follow it (in reverse). -/
structure Composing where
  settled : List Nat
  starter : Option Nat
  marks : List Nat

/-- All characters so far, in reverse. -/
def Composing.flatten (state : Composing) : List Nat :=
  state.marks ++ state.starter.toList ++ state.settled

/-- Adds a character: it merges into the last starter if nothing of its class or a higher one
stands between the two. -/
def Composing.push (state : Composing) (code : Nat) : Composing :=
  let rank := combiningClass code
  let open_ := match state.marks with
    | [] => true
    | last :: _ => combiningClass last < rank
  let merged := if open_ then state.starter.bind (compose? · code) else none
  match merged with
  | some composite => { state with starter := some composite }
  | none =>
    if rank = 0 then { settled := state.flatten, starter := some code, marks := [] }
    else { state with marks := code :: state.marks }

/-- The normal form of a text. -/
def normalize (cs : List Char) : List Char :=
  if cs.all (·.toNat < 128) then cs
  else
    let ordered := orderMarks (cs.flatMap fun c => decompose c.toNat)
    let start : Composing := { settled := [], starter := none, marks := [] }
    ((ordered.foldl Composing.push start).flatten.reverse).map Char.ofNat

end RobotKit.Text.Normal
