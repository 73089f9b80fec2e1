import RobotKit.Text.CodePoint
import RobotKit.Text.Printable

/-!
# Quoted texts

A quoted text stands between two equal marks. The single mark is preferred; the double mark is
taken when the text holds single marks and no double ones. Characters without a printed form,
the backslash and the chosen mark are escaped.
-/

namespace RobotKit.Text

/-- The digit of a value below 16. -/
def hexDigit (n : Nat) : Char :=
  if n < 10 then Char.ofNat ('0'.toNat + n) else Char.ofNat ('a'.toNat + (n - 10))

/-- `n` in base 16, padded to `width` places. -/
def hexPadded : Nat → Nat → List Char
  | 0, _ => []
  | width + 1, n => hexPadded width (n / 16) ++ [hexDigit (n % 16)]

/-- The escape of a code point: a letter for tab, line feed, carriage return and backslash, else
two, four or eight digits in base 16. -/
def escape (code : Nat) : List Char :=
  if code = 9 then ['\\', 't']
  else if code = 10 then ['\\', 'n']
  else if code = 13 then ['\\', 'r']
  else if code = 92 then ['\\', '\\']
  else if code < 0x100 then ['\\', 'x'] ++ hexPadded 2 code
  else if code < 0x10000 then ['\\', 'u'] ++ hexPadded 4 code
  else ['\\', 'U'] ++ hexPadded 8 code

/-- The mark for a text: double if it holds single marks and no double ones. -/
def quoteMark (codes : List Nat) : Char :=
  if codes.contains 39 && !codes.contains 34 then '"' else '\''

/-- One code point between two `mark`s. -/
def quoteCode (mark : Char) (code : Nat) : List Char :=
  if code = mark.toNat then ['\\', mark]
  else if code = 92 || !isPrintable code then escape code
  else [Char.ofNat code]

/-- The text between its marks, without them. -/
def quoteBody (codes : List CodePoint) : List Char :=
  let values := codes.map (·.val)
  values.flatMap (quoteCode (quoteMark values))

/-- The quoted form of a text. -/
def quote (codes : List CodePoint) : String :=
  let mark := quoteMark (codes.map (·.val))
  String.ofList (mark :: quoteBody codes ++ [mark])

def quoteString (s : String) : String := quote (codePoints s)

/-- One byte between two `mark`s: bytes outside printable ASCII are written in base 16. -/
def quoteByte (mark : Char) (byte : Nat) : List Char :=
  if byte = mark.toNat then ['\\', mark]
  else if byte = 92 || byte < 32 || 127 ≤ byte then escape byte
  else [Char.ofNat byte]

/-- The quoted form of a byte string, with the letter that marks it as such. -/
def quoteBytes (bytes : List UInt8) : String :=
  let values := bytes.map UInt8.toNat
  let mark := quoteMark values
  String.ofList ('b' :: mark :: values.flatMap (quoteByte mark) ++ [mark])

end RobotKit.Text
