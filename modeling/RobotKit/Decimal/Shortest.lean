import RobotKit.Decimal.Binary64

/-!
# Shortest decimals

The shortest decimal of a number has the fewest digits that read back as the same number; of
several such decimals it is the nearest. A `DecimalStyle` says how the digits are laid out.
-/

namespace RobotKit.Decimal

/-- The decimal `digits * 10 ^ exponent`. -/
structure Digits where
  digits : Nat
  exponent : Int
deriving DecidableEq

/-- Moves trailing zeros of the digits into the exponent. -/
def Digits.strip : Nat → Digits → Digits
  | 0, d => d
  | fuel + 1, d =>
    if d.digits ≠ 0 && d.digits % 10 = 0 then Digits.strip fuel ⟨d.digits / 10, d.exponent + 1⟩ else d

/-- The number that the decimal reads back as. -/
def Digits.read (d : Digits) : Binary64 := Binary64.ofDecimal d.digits d.exponent

/-- The least `p` with `num / den < 10 ^ p`. -/
def decimalExponent (num den : Nat) : Int :=
  let guess := ((Nat.log2 num : Int) - (Nat.log2 den : Int)) * 30103 / 100000
  let below := fun (p : Int) =>
    if p ≥ 0 then num < den * tenTo p.toNat else num * tenTo (-p).toNat < den
  (([-2, -1, 0, 1, 2, 3] : List Int).map (guess + ·)).find? (fun p => below p) |>.getD guess

/-- The decimals with `count` digits just below and above `num / den`, the nearer one first. -/
def neighbours (num den count : Nat) : List Digits :=
  let exponent := decimalExponent num den - count
  let (n, d) := if exponent ≥ 0 then (num, den * tenTo exponent.toNat)
    else (num * tenTo (-exponent).toNat, den)
  let low : Digits := ⟨n / d, exponent⟩
  let high : Digits := ⟨n / d + 1, exponent⟩
  let twice := 2 * (n % d)
  if twice < d || (twice = d && n / d % 2 = 0) then [low, high] else [high, low]

/-- The shortest decimal of the magnitude of a finite number. -/
def shortest (x : Binary64) : Digits :=
  let (m, q) := x.magnitude
  if m = 0 then ⟨0, 0⟩
  else
    let (num, den) := if q ≥ 0 then (m * twoTo q.toNat, 1) else (m, twoTo (-q).toNat)
    let target : Binary64 := ⟨x.bits &&& 0x7FFFFFFFFFFFFFFF⟩
    let candidates := (List.range 17).flatMap fun k => neighbours num den (k + 1)
    match candidates.find? fun d => d.read = target with
    | some d => d.strip 20
    | none => ⟨m, q⟩

/-- How a decimal is laid out. -/
structure DecimalStyle where
  /-- A number without fraction keeps `.0`. -/
  pointZero : Bool
  /-- The text for infinity. -/
  infinity : String
  /-- The text for a value that is not a number. -/
  notANumber : String

/-- Inserts the decimal point: positional from `0.0001` up to sixteen places before the point,
otherwise with an exponent of at least two digits. -/
def DecimalStyle.layout (style : DecimalStyle) (d : Digits) : String :=
  let text := Nat.toDigits 10 d.digits
  let point : Int := text.length + d.exponent
  if d.digits = 0 then if style.pointZero then "0.0" else "0"
  else if point ≤ -4 || point > 16 then
    let rest := text.drop 1
    let fraction := if rest.isEmpty then [] else '.' :: rest
    let power := point - 1
    let sign := if power < 0 then '-' else '+'
    let places := Nat.toDigits 10 power.natAbs
    let padded := if places.length < 2 then '0' :: places else places
    String.ofList (text.take 1 ++ fraction ++ ['e', sign] ++ padded)
  else if point ≤ 0 then
    String.ofList (['0', '.'] ++ List.replicate (-point).toNat '0' ++ text)
  else if point.toNat < text.length then
    String.ofList (text.take point.toNat ++ ['.'] ++ text.drop point.toNat)
  else
    String.ofList (text ++ List.replicate (point.toNat - text.length) '0' ++
      if style.pointZero then ['.', '0'] else [])

/-- The text of a number in a style. -/
def DecimalStyle.write (style : DecimalStyle) (x : Binary64) : String :=
  if x.isNaN then style.notANumber
  else
    let body := if x.isInfinite then style.infinity else style.layout (shortest x)
    if x.isNegative then "-" ++ body else body

/-- The plain style: `1.0`, `1e+16`, `inf`, `nan`. -/
def plainStyle : DecimalStyle := { pointZero := true, infinity := "inf", notANumber := "nan" }

end RobotKit.Decimal
