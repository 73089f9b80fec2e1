import RobotKit.Script.Token
import RobotKit.Text.CharacterName

/-!
# Escapes in string literals

A backslash in a string that is not raw starts an escape. An unknown escape stands for itself,
backslash included; a malformed numeric or named one is refused.
-/

namespace RobotKit.Script

open RobotKit.Text

/-- The character that a one-letter escape stands for. -/
def simpleEscape (c : Char) : Option Nat :=
  match c with
  | '\\' => some 92
  | '\'' => some 39
  | '"' => some 34
  | 'a' => some 7
  | 'b' => some 8
  | 'f' => some 12
  | 'n' => some 10
  | 'r' => some 13
  | 't' => some 9
  | 'v' => some 11
  | _ => none

def isOctalDigit (c : Char) : Bool := '0' ≤ c && c ≤ '7'

/-- The first one to three octal digits of a text, and what follows. -/
def octalDigits (cs : List Char) : List Char × List Char :=
  let digits := (cs.take 3).takeWhile isOctalDigit
  (digits, cs.drop digits.length)

/-- Exactly `count` digits in base 16, and what follows. -/
def hexNumber (count : Nat) (cs : List Char) : Option (Nat × List Char) :=
  let digits := cs.take count
  if digits.length = count && digits.all isHexDigit then
    some (digitsValue 16 digits, cs.drop count)
  else none

/-- A code point from a number in range. -/
def codePoint? (n : Nat) : Option CodePoint :=
  if h : n < 0x110000 then some ⟨n, h⟩ else none

/-- What a text escape (the text after its backslash) stands for, and what follows it. -/
def textEscape (cs : List Char) : Option (List CodePoint × List Char) :=
  match cs with
  | [] => some ([CodePoint.ofChar '\\'], [])
  | '\n' :: rest => some ([], rest)
  | 'x' :: rest => numeric 2 rest
  | 'u' :: rest => numeric 4 rest
  | 'U' :: rest => numeric 8 rest
  | 'N' :: '\x7b' :: rest => do
    let name := rest.takeWhile (· ≠ '\x7d')
    let after := rest.drop name.length
    if after.isEmpty then none
    else
      let code ← characterNamed? (String.ofList name)
      let point ← codePoint? code
      some ([point], after.drop 1)
  | 'N' :: _ => none
  | c :: rest =>
    match simpleEscape c with
    | some code => (codePoint? code).map fun point => ([point], rest)
    | none =>
      if isOctalDigit c then
        let (digits, after) := octalDigits cs
        (codePoint? (digitsValue 8 digits)).map fun point => ([point], after)
      else some ([CodePoint.ofChar '\\', CodePoint.ofChar c], rest)
where
  /-- A code point given by a fixed number of digits. -/
  numeric (count : Nat) (cs : List Char) : Option (List CodePoint × List Char) := do
    let (value, rest) ← hexNumber count cs
    let point ← codePoint? value
    some ([point], rest)

/-- The text of a string body with escapes, at most `fuel` steps long. -/
def unescapeText : Nat → List Char → Option (List CodePoint)
  | _, [] => some []
  | 0, _ => none
  | fuel + 1, '\\' :: rest => do
    let (codes, after) ← textEscape rest
    (unescapeText fuel after).map (codes ++ ·)
  | fuel + 1, c :: rest => (unescapeText fuel rest).map (CodePoint.ofChar c :: ·)

def decodeText (raw : Bool) (body : List Char) : Option (List CodePoint) :=
  if raw then some (body.map CodePoint.ofChar) else unescapeText (body.length + 1) body

/-- What a byte escape (the text after its backslash) stands for, and what follows it. -/
def byteEscape (cs : List Char) : Option (List UInt8 × List Char) :=
  match cs with
  | [] => some ([92], [])
  | '\n' :: rest => some ([], rest)
  | 'x' :: rest => (hexNumber 2 rest).map fun (value, after) => ([value.toUInt8], after)
  | c :: rest =>
    match simpleEscape c with
    | some code => some ([code.toUInt8], rest)
    | none =>
      if isOctalDigit c then
        let (digits, after) := octalDigits cs
        some ([(digitsValue 8 digits).toUInt8], after)
      else some ([92, c.toNat.toUInt8], rest)

/-- The bytes of a string body with escapes, at most `fuel` steps long. -/
def unescapeBytes : Nat → List Char → Option (List UInt8)
  | _, [] => some []
  | 0, _ => none
  | fuel + 1, '\\' :: rest => do
    let (bytes, after) ← byteEscape rest
    (unescapeBytes fuel after).map (bytes ++ ·)
  | fuel + 1, c :: rest => (unescapeBytes fuel rest).map (c.toNat.toUInt8 :: ·)

/-- The bytes of a string body, which has to be ASCII. -/
def decodeBytes (raw : Bool) (body : List Char) : Option (List UInt8) :=
  if !body.all (·.toNat < 128) then none
  else if raw then some (body.map fun c => c.toNat.toUInt8)
  else unescapeBytes (body.length + 1) body

end RobotKit.Script
