/-!
# Code points

Texts named inside a script may hold any code point, lone surrogates included, because an escape
can spell one. Texts that are read from or written to files are `String`s and cannot.
-/

namespace RobotKit.Text

/-- A Unicode code point, surrogates included. -/
abbrev CodePoint := Fin 0x110000

def CodePoint.ofChar (c : Char) : CodePoint :=
  Fin.ofNat 0x110000 c.toNat

def codePoints (s : String) : List CodePoint := s.toList.map CodePoint.ofChar

/-- The string with these code points, if none of them is a surrogate. -/
def stringOf? (codes : List CodePoint) : Option String :=
  if codes.all fun c => Nat.isValidChar c.val then
    some (String.ofList (codes.map fun c => Char.ofNat c.val))
  else none

end RobotKit.Text
