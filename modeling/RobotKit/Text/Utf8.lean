import RobotKit.Text.Quoted

/-!
# UTF-8

Texts are stored as UTF-8. When bytes are no such text, the first place where they fail and the
way in which they do are known.
-/

namespace RobotKit.Text

def hexValue (c : Char) : Nat :=
  if c.isDigit then c.toNat - '0'.toNat
  else if 'a' ≤ c && c ≤ 'f' then c.toNat - 'a'.toNat + 10
  else c.toNat - 'A'.toNat + 10

def readHex (digits : List Char) : Nat := digits.foldl (fun n c => n * 16 + hexValue c) 0

/-- In which way bytes fail to be UTF-8. -/
inductive DecodeFault where
  | startByte | continuation | ends
deriving DecidableEq

/-- Where bytes fail to be UTF-8: the position, the bytes that are at fault, and the way. -/
structure DecodeError where
  position : Nat
  bytes : List UInt8
  fault : DecodeFault
deriving DecidableEq

def DecodeError.message (e : DecodeError) : String :=
  let what := match e.bytes with
    | [byte] => "byte 0x" ++ String.ofList (hexPadded 2 byte.toNat) ++ " in position " ++
        toString e.position
    | bytes => "bytes in position " ++ toString e.position ++ "-" ++
        toString (e.position + bytes.length - 1)
  let why := match e.fault with
    | .startByte => "invalid start byte"
    | .continuation => "invalid continuation byte"
    | .ends => "unexpected end of data"
  "'utf-8' codec can't decode " ++ what ++ ": " ++ why

/-- The range of the bytes that may follow a first byte, and how many continuation bytes there
are; `none` if no character starts with it. -/
def leadByte (byte : Nat) : Option (Nat × Nat × Nat) :=
  if byte < 0x80 then some (0x80, 0xBF, 0)
  else if byte < 0xC2 then none
  else if byte < 0xE0 then some (0x80, 0xBF, 1)
  else if byte = 0xE0 then some (0xA0, 0xBF, 2)
  else if byte = 0xED then some (0x80, 0x9F, 2)
  else if byte < 0xF0 then some (0x80, 0xBF, 2)
  else if byte = 0xF0 then some (0x90, 0xBF, 3)
  else if byte < 0xF4 then some (0x80, 0xBF, 3)
  else if byte = 0xF4 then some (0x80, 0x8F, 3)
  else none

/-- Counts the continuation bytes in front, at most `count`; the first has to lie between `low`
and `high`. -/
def continuations (low high : Nat) : Nat → List UInt8 → Nat
  | 0, _ => 0
  | _, [] => 0
  | count + 1, byte :: rest =>
    if low ≤ byte.toNat && byte.toNat ≤ high then 1 + continuations 0x80 0xBF count rest else 0

/-- The first place where bytes fail to be UTF-8, counted from `position`. -/
def decodeError? : Nat → Nat → List UInt8 → Option DecodeError
  | 0, _, _ => none
  | _, _, [] => none
  | fuel + 1, position, byte :: rest =>
    match leadByte byte.toNat with
    | none => some ⟨position, [byte], .startByte⟩
    | some (low, high, count) =>
      let found := continuations low high count rest
      if found = count then decodeError? fuel (position + count + 1) (rest.drop count)
      else
        let bytes := byte :: rest.take found
        some ⟨position, bytes, if found = rest.length then .ends else .continuation⟩

/-- Why bytes are no text. -/
def decodeFailure (bytes : List UInt8) : DecodeError :=
  (decodeError? (bytes.length + 1) 0 bytes).getD ⟨0, [], .ends⟩

end RobotKit.Text
