import RobotKit.Decimal.Shortest
import RobotKit.Script.Token
import RobotKit.Text.Quoted
import RobotKit.Text.Search

/-!
# Writing literals

Texts are written with as few escapes as possible where the surroundings forbid backslashes, and
in their quoted form elsewhere.
-/

namespace RobotKit.Script

open RobotKit.Decimal RobotKit.Text

/-- Why a tree has no written form. -/
inductive WriteError where
  /-- An integer has more than `maxDecimalDigits` digits. -/
  | longInteger
  /-- The expression of a formatted field would need a backslash. -/
  | fieldBackslash
deriving DecidableEq

def WriteError.message : WriteError → String
  | .longInteger => "Exceeds the limit (4300 digits) for integer string conversion; " ++
      "use sys.set_int_max_str_digits() to increase the limit"
  | .fieldBackslash => "Unable to avoid backslash in f-string expression part"

/-- The quotation marks that span one line. -/
def shortMarks : List String := ["'", "\""]

/-- The quotation marks that may span several lines. -/
def longMarks : List String := ["\"\"\"", "'''"]

/-- All quotation marks, the preferred ones first. -/
def allMarks : List String := shortMarks ++ longMarks

/-- A code point outside a quoted form: only backslashes and characters without a glyph are
escaped; line feeds and tabs too if `all` holds. -/
def escapeFew (all : Bool) (code : CodePoint) : List Char :=
  if !all && (code.val = 10 || code.val = 9) then [Char.ofNat code.val]
  else if code.val = 92 || !isPrintable code.val then escape code.val
  else [Char.ofNat code.val]

/-- The body of a text with few escapes, and the marks of `marks` that may surround it, the
preferred one first. If none of them may, the body is that of the quoted form. -/
def fewEscapes (all : Bool) (marks : List String) (text : List CodePoint) :
    List Char × List String :=
  let body := text.flatMap (escapeFew all)
  let fitting := marks.filter fun mark =>
    (longMarks.contains mark || !body.contains '\n') && !hasPart mark.toList body
  match body.getLast? with
  | none => if fitting.isEmpty then ([], marks) else ([], fitting)
  | some last =>
    let endsAs := fun (mark : String) => mark.toList.head? = some last
    match fitting.filter (!endsAs ·) ++ fitting.filter endsAs with
    | [] =>
      let mark := quoteMark (text.map (·.val))
      let chosen := (marks.find? fun q => q.toList.contains mark).getD (String.singleton mark)
      (quoteBody text, [chosen])
    | best :: others =>
      if endsAs best then (body.dropLast ++ ['\\', last], best :: others) else (body, best :: others)

/-- A text with few escapes between its marks. -/
def writeFewEscapes (marks : List String) (text : List CodePoint) : String :=
  let (body, fitting) := fewEscapes false marks text
  let mark := fitting.headD "'"
  mark ++ String.ofList body ++ mark

/-- Numbers in scripts: infinity is a literal too large for a number. -/
def scriptStyle : DecimalStyle :=
  { pointZero := true, infinity := "1e309", notANumber := "(1e309-1e309)" }

/-- The written form of a literal; `inField` where backslashes are forbidden. -/
def Literal.write (inField : Bool) : Literal → Except WriteError String
  | .null => .ok "None"
  | .bool true => .ok "True"
  | .bool false => .ok "False"
  | .ellipsis => .ok "..."
  | .int value =>
    let digits := Nat.toDigits 10 value
    if digits.length > maxDecimalDigits then .error .longInteger else .ok (String.ofList digits)
  | .float value => .ok (scriptStyle.write value)
  | .imaginary value => .ok ({ scriptStyle with pointZero := false }.write value ++ "j")
  | .text value tagged =>
    .ok ((if tagged then "u" else "") ++
      if inField then writeFewEscapes allMarks value else quote value)
  | .bytes value => .ok (quoteBytes value)

/-- Is the literal an integer or a truth value? A dot after it needs a blank. -/
def Literal.isInteger : Literal → Bool
  | .int _ => true
  | .bool _ => true
  | _ => false

end RobotKit.Script
