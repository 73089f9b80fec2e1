/-!
# Tables of code points

A character class or a character map of a standard is kept as a text of numbers in base 36 and
expanded once. Classes are lists of inclusive ranges; each range is written as its distance from
the end of the range before it and its length less one.
-/

namespace RobotKit.Text

/-- Inclusive ranges of code points in increasing order. -/
abbrev Ranges := Array (Nat × Nat)

/-- Does some range hold the code point? -/
def Ranges.contains (ranges : Ranges) (code : Nat) : Bool :=
  ranges.any fun range => range.1 ≤ code && code ≤ range.2

def digit36 (c : Char) : Nat :=
  if c.isDigit then c.toNat - '0'.toNat else c.toNat - 'a'.toNat + 10

/-- The words of a text, parted by blanks and line ends. -/
def wordsOf (text : String) : List (List Char) :=
  let step := fun (state : List Char × List (List Char)) (c : Char) =>
    if c = ' ' || c = '\n' then
      if state.1.isEmpty then state else ([], state.1.reverse :: state.2)
    else (c :: state.1, state.2)
  let (last, words) := text.toList.foldl step ([], [])
  (if last.isEmpty then words else last.reverse :: words).reverse

/-- A number in base 36. -/
def readNumber (word : List Char) : Nat := word.foldl (fun n c => n * 36 + digit36 c) 0

def readNumbers (text : String) : List Nat := (wordsOf text).map readNumber

/-- Ranges from their distances and lengths, counted from `base`. -/
def rangesFrom (base : Nat) : List Nat → List (Nat × Nat)
  | distance :: extent :: rest =>
    (base + distance, base + distance + extent) :: rangesFrom (base + distance + extent) rest
  | _ => []

def Ranges.ofText (text : String) : Ranges :=
  (rangesFrom 0 (readNumbers text)).toArray

end RobotKit.Text
