import RobotKit.Text.CharacterNameTable
import RobotKit.Text.Packed
import RobotKit.Text.Ranges

/-!
# Names of characters

Unicode gives every character a name, and an escape may spell a character by it. Most names are
kept in a table. The names of ideographs end with their code, and the name of a Hangul syllable is
put together from the names of its letters.

The table lists names in the order of their codes, each on a line. A line starts with the number of
words that the name takes over from the name before it, and gives the words that follow; after a plus
sign the name goes on like the name before it. A line with a number sign stands for the name before
it with the next number at its end. A line that starts with an equals sign gives the distance of the
next code from the code before it. Words are joined by underscores.
-/

namespace RobotKit.Text

/-! ## Names in the table -/

/-- The words of a line after the name before it. -/
def entryWords (before : List String) (kept : Nat) (rest : List Char) : List String :=
  let wordsIn (text : List Char) := if text.isEmpty then [] else (String.ofList text).splitOn "_"
  if rest.getLast? = some '+' then
    let words := wordsIn rest.dropLast
    before.take kept ++ words ++ before.drop (kept + words.length)
  else before.take kept ++ wordsIn rest

/-- The next number, where both start with the last digit. -/
def nextNumber : List Char → List Char
  | [] => []
  | '9' :: digits => '0' :: nextNumber digits
  | digit :: digits => Char.ofNat (digit.toNat + 1) :: digits

/-- The words of a name with the next number at its end. -/
def nextWords (before : List String) : List String :=
  before.modify (before.length - 1) fun word =>
    String.ofList (nextNumber word.toList.reverse).reverse

/-- The value of the digits of a hexadecimal number, if all are capital ones. -/
def capitalHexValue? (digits : List Char) : Option Nat :=
  digits.foldlM (fun n c =>
    if c.isDigit then some (n * 16 + (c.toNat - '0'.toNat))
    else if 'A' ≤ c && c ≤ 'F' then some (n * 16 + (c.toNat - 'A'.toNat + 10))
    else none) 0

/-- The code of the name with these words in the lines of the table. The next name has the code
`next`, and the words `before` are those of the name before it. -/
def codeInEntries? (wanted : List String) (next : Nat) (before : List String) :
    List (List Char) → Option Nat
  | [] => none
  | [] :: entries => codeInEntries? wanted next before entries
  | ('=' :: digits) :: entries =>
    codeInEntries? wanted (next - 1 + (capitalHexValue? digits).getD 1) before entries
  | (kept :: rest) :: entries =>
    let words := if kept = '#' then nextWords before
      else entryWords before (kept.toNat - '0'.toNat) rest
    if words = wanted then some next else codeInEntries? wanted (next + 1) words entries

/-- The lines of the table. They are unpacked when a name is first looked up. -/
def nameEntries : Thunk (List (List Char)) :=
  .mk fun _ => ((Packed.unpack packedNames).splitOn "\n").map String.toList

/-! ## Names of ideographs -/

def unifiedIdeographs : Ranges :=
  #[(0x3400, 0x4DBF), (0x4E00, 0x9FFF), (0x20000, 0x2A6DF), (0x2A700, 0x2B738),
    (0x2B740, 0x2B81D), (0x2B820, 0x2CEA1), (0x2CEB0, 0x2EBE0), (0x30000, 0x3134A)]

/-- The other characters whose names are a stem and their code. -/
def numberedNames : List (String × Ranges) :=
  [("CJK COMPATIBILITY IDEOGRAPH-", #[(0xF900, 0xFA6D), (0xFA70, 0xFAD9), (0x2F800, 0x2FA1D)]),
    ("KHITAN SMALL SCRIPT CHARACTER-", #[(0x18B00, 0x18CD5)]),
    ("NUSHU CHARACTER-", #[(0x1B170, 0x1B2FB)])]

/-- The rest of a text after its start. -/
def afterStart? (start name : String) : Option (List Char) :=
  if name.startsWith start then some (name.toList.drop start.length) else none

/-- The code of a character in one of some ranges, from four or five digits. -/
def codeIn? (ranges : Ranges) (digits : List Char) : Option Nat := do
  if digits.length = 4 || digits.length = 5 then
    (capitalHexValue? digits).filter ranges.contains
  else none

/-- The code of a character whose name is a stem and its code without a leading zero. -/
def numberedCode? (name : String) : Option Nat :=
  numberedNames.findSome? fun (stem, ranges) => do
    let digits ← afterStart? stem name
    if digits.head? = some '0' then none else codeIn? ranges digits

/-! ## Names of Hangul syllables -/

/-- The letters that a syllable can start with. -/
def leadNames : List String :=
  ["G", "GG", "N", "D", "DD", "R", "M", "B", "BB", "S", "SS", "", "J", "JJ", "C", "K", "T", "P", "H"]

def vowelNames : List String :=
  ["A", "AE", "YA", "YAE", "EO", "E", "YEO", "YE", "O", "WA", "WAE", "OE", "YO", "U", "WEO", "WE",
    "WI", "YU", "EU", "YI", "I"]

/-- The letters that a syllable can end with. -/
def tailNames : List String :=
  ["", "G", "GG", "GS", "N", "NJ", "NH", "D", "L", "LG", "LM", "LB", "LS", "LT", "LP", "LH", "M",
    "B", "BS", "S", "SS", "NG", "J", "C", "K", "T", "P", "H"]

/-- The longest of some letters that a text starts with: its place and the rest of the text. -/
def longestStart? (letters : List String) (cs : List Char) : Option (Nat × List Char) :=
  let fits := (List.range letters.length).zip letters |>.filter fun (_, letter) =>
    cs.take letter.length = letter.toList
  let longer := fun (best : Option (Nat × String)) (entry : Nat × String) =>
    match best with
    | some kept => if kept.2.length < entry.2.length then some entry else best
    | none => some entry
  (fits.foldl longer none).map fun (place, letter) => (place, cs.drop letter.length)

/-- The code of a Hangul syllable from the names of its letters. -/
def syllableCode? (letters : List Char) : Option Nat := do
  let (lead, rest) ← longestStart? leadNames letters
  let (vowel, rest) ← longestStart? vowelNames rest
  let (tail, rest) ← longestStart? tailNames rest
  if rest.isEmpty then some (0xAC00 + (lead * 21 + vowel) * 28 + tail) else none

/-! ## Looking up a name -/

/-- The code of the character with a name. Case does not matter, except in the names of unified
ideographs and of Hangul syllables. -/
def characterNamed? (name : String) : Option Nat :=
  match afterStart? "HANGUL SYLLABLE " name, afterStart? "CJK UNIFIED IDEOGRAPH-" name with
  | some letters, _ => syllableCode? letters
  | none, some digits => codeIn? unifiedIdeographs digits
  | none, none =>
    let capital := name.toUpper
    let words := capital.splitOn " "
    (numberedCode? capital).or (codeInEntries? words 0 [] nameEntries.get)

end RobotKit.Text
