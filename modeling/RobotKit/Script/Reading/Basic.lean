import RobotKit.Script.Token

/-!
# Reading token lists

A reader takes what it needs from the front of a list of tokens, or fails and takes nothing. The
rules of the grammar are written as readers; a rule that refers to the grammar as a whole takes
those readers as arguments, and the grammar ties the knot with a bound on the depth.
-/

namespace RobotKit.Script

/-- A reader of `α`s: it gives a value and the tokens that are left, or fails. -/
structure Reader (α : Type) where
  run : List Token → Option (α × List Token)
  /-- Tokens are only taken from the front. -/
  suffix : ∀ {tokens rest : List Token} {a : α}, run tokens = some (a, rest) → rest <:+ tokens

namespace Reader

/-- Takes nothing and gives a value that depends on the tokens. -/
def look {α : Type} (f : List Token → α) : Reader α where
  run tokens := some (f tokens, tokens)
  suffix h := by
    obtain ⟨-, rfl⟩ := Prod.mk.inj (Option.some.inj h)
    exact List.suffix_refl _

instance : Monad Reader where
  pure a := look fun _ => a
  bind reader next :=
    { run := fun tokens => (reader.run tokens).bind fun (a, rest) => (next a).run rest
      suffix := fun h => by
        obtain ⟨⟨a, rest⟩, hreader, hnext⟩ := Option.bind_eq_some_iff.mp h
        exact ((next a).suffix hnext).trans (reader.suffix hreader) }

instance : Alternative Reader where
  failure := ⟨fun _ => none, nofun⟩
  orElse reader other :=
    { run := fun tokens => reader.run tokens <|> (other ()).run tokens
      suffix := fun {tokens _ _} h => by
        cases hreader : reader.run tokens with
        | some result => exact reader.suffix (hreader.trans (by simpa [hreader] using h))
        | none => exact (other ()).suffix (by simpa [hreader] using h) }

/-- How many tokens are left. -/
def size : Reader Nat := look List.length

/-- The next token, left in place. -/
def peek : Reader (Option Token) := look List.head?

/-- The token after the next one, left in place. -/
def peekSecond : Reader (Option Token) := look fun tokens => (tokens.drop 1).head?

def take : Reader Token where
  run
    | token :: rest => some (token, rest)
    | [] => none
  suffix {tokens _ _} h := by
    cases tokens with
    | nil => exact absurd h (by simp)
    | cons token rest =>
      obtain ⟨-, rfl⟩ := Prod.mk.inj (Option.some.inj h)
      exact List.suffix_cons token _

/-- Takes the next token if it is `token`. -/
def accept (token : Token) : Reader Bool := do
  if (← peek) = some token then
    let _ ← take
    return true
  else return false

/-- Takes the token `token` or fails. -/
def expect (token : Token) : Reader Unit := do
  if !(← accept token) then failure

def isNext (token : Token) : Reader Bool := return (← peek) = some token

/-- Takes the next token if it is this operator. -/
def acceptOp (text : String) : Reader Bool := accept (.op text)

/-- Takes this operator or fails. -/
def expectOp (text : String) : Reader Unit := expect (.op text)

def isOp (text : String) : Reader Bool := isNext (.op text)

/-- Takes the next token if it is this keyword. -/
def acceptKeyword (text : String) : Reader Bool := accept (.keyword text)

/-- Takes this keyword or fails. -/
def expectKeyword (text : String) : Reader Unit := expect (.keyword text)

def isKeyword (text : String) : Reader Bool := isNext (.keyword text)

def name : Reader String := do
  match ← take with
  | .name text => return text
  | _ => failure

/-- The result of a reader, or nothing (and nothing taken) if it fails. -/
def attempt {α : Type} (reader : Reader α) : Reader (Option α) :=
  (some <$> reader) <|> pure none

/-- Results of a reader until it fails, at most `limit` of them. -/
def manyUpTo {α : Type} (reader : Reader α) : Nat → Reader (List α)
  | 0 => return []
  | limit + 1 => do
    match ← attempt reader with
    | some a => return a :: (← manyUpTo reader limit)
    | none => return []

/-- Results of a reader until it fails. Each is taken to use up a token. -/
def many {α : Type} (reader : Reader α) : Reader (List α) := do
  match ← attempt reader with
  | some a => return a :: (← manyUpTo reader (← size))
  | none => return []

/-- One or more results of a reader. -/
def many1 {α : Type} (reader : Reader α) : Reader (List α) := do
  let first ← reader
  return first :: (← many reader)

/-- One or more results with commas between them. -/
def commaSeparated {α : Type} (reader : Reader α) : Reader (List α) := do
  let first ← reader
  return first :: (← many do expectOp ","; reader)

/-- Results with commas between them up to a closing operator, which is taken too. A comma may
stand before it. -/
def commaClosed {α : Type} (reader : Reader α) (close : String) : Reader (List α) := do
  if ← acceptOp close then return []
  else
    let items ← commaSeparated reader
    let _ ← acceptOp ","
    expectOp close
    return items

end Reader

end RobotKit.Script
