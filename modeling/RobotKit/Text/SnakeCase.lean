import RobotKit.Text.Blank

/-!
# Snake case

A name in snake case is made of lower-case ASCII letters, digits and underscores: gaps become
underscores, and so do the borders between words that are marked by capital letters.
-/

namespace RobotKit.Text

/-- An ASCII capital letter. -/
def isCapital (c : Char) : Bool := 'A' ≤ c && c ≤ 'Z'

/-- An ASCII small letter. -/
def isSmall (c : Char) : Bool := 'a' ≤ c && c ≤ 'z'

/-- Replaces every run of blanks and hyphens by one underscore. -/
def joinGaps : Bool → List Char → List Char
  | _, [] => []
  | inGap, c :: rest =>
    if isBlank c || c = '-' then
      if inGap then joinGaps true rest else '_' :: joinGaps true rest
    else c :: joinGaps false rest

/-- Parts a capital letter from a small letter or digit before it. -/
def partCapitals : List Char → List Char
  | a :: b :: rest =>
    if (isSmall a || a.isDigit) && isCapital b then a :: '_' :: partCapitals (b :: rest)
    else a :: partCapitals (b :: rest)
  | rest => rest

/-- Parts the last of several capital letters from those before it when a small letter follows. -/
def partAcronyms : List Char → List Char
  | a :: b :: c :: rest =>
    if isCapital a && isCapital b && isSmall c then a :: '_' :: partAcronyms (b :: c :: rest)
    else a :: partAcronyms (b :: c :: rest)
  | rest => rest

def snakeCase (name : String) : String :=
  let parted := partAcronyms (partCapitals (joinGaps false name.toList))
  String.ofList ((parted.filter fun c => isCapital c || isSmall c || c.isDigit || c = '_').map
    Char.toLower)

end RobotKit.Text
