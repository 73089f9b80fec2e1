/-!
# Binary floating-point numbers of 64 bits

A number is kept as its bit pattern, so that equality is decidable and both zeros and every NaN
stay apart. `ofDecimal` rounds a decimal to the nearest number, a half to the even neighbour.
-/

namespace RobotKit.Decimal

def twoTo (n : Nat) : Nat := Nat.pow 2 n

def tenTo (n : Nat) : Nat := Nat.pow 10 n

/-- A floating-point number of 64 bits. -/
structure Binary64 where
  bits : UInt64
deriving DecidableEq, Inhabited

namespace Binary64

def infinity : Binary64 := ⟨0x7FF0000000000000⟩

def isNegative (x : Binary64) : Bool := x.bits >>> 63 = 1

def exponentField (x : Binary64) : Nat := ((x.bits >>> 52) &&& 0x7FF).toNat

def fractionField (x : Binary64) : Nat := (x.bits &&& 0xFFFFFFFFFFFFF).toNat

def isInfinite (x : Binary64) : Bool := x.exponentField = 2047 && x.fractionField = 0

def isNaN (x : Binary64) : Bool := x.exponentField = 2047 && x.fractionField ≠ 0

/-- The magnitude of a finite number as `m` and `q` with value `m * 2 ^ q`. -/
def magnitude (x : Binary64) : Nat × Int :=
  if x.exponentField = 0 then (x.fractionField, -1074)
  else (x.fractionField + twoTo 52, (x.exponentField : Int) - 1075)

/-- The number with the opposite sign. -/
def neg (x : Binary64) : Binary64 := ⟨x.bits ^^^ 0x8000000000000000⟩

/-- The machine number, for arithmetic. -/
def toFloat (x : Binary64) : Float := Float.ofBits x.bits

/-- The bit pattern of a machine number. -/
def ofFloat (x : Float) : Binary64 := ⟨x.toBits⟩

/-- `num / den` to the nearest natural number, a half to the even one. -/
def roundDiv (num den : Nat) : Nat :=
  let floor := num / den
  let twice := 2 * (num % den)
  if twice > den || (twice = den && floor % 2 = 1) then floor + 1 else floor

/-- The number with magnitude `m * 2 ^ q`, where `m ≤ 2 ^ 53` and `-1074 ≤ q`. -/
def encode (m : Nat) (q : Int) : Binary64 :=
  let (m, q) := if m = twoTo 53 then (twoTo 52, q + 1) else (m, q)
  if m < twoTo 52 then ⟨m.toUInt64⟩
  else
    let field := (q + 1075).toNat
    if field ≥ 2047 then infinity else ⟨(field * twoTo 52 + (m - twoTo 52)).toUInt64⟩

/-- The number nearest to the positive quotient `num / den`. -/
def ofQuotient (num den : Nat) : Binary64 :=
  let guess : Int := (Nat.log2 num : Int) - (Nat.log2 den : Int) - 53
  let scale := fun (q : Int) =>
    if q ≥ 0 then (num, den * twoTo q.toNat) else (num * twoTo (-q).toNat, den)
  let (n, d) := scale guess
  let exact := if n / d ≥ twoTo 53 then guess + 1 else guess
  let q := max exact (-1074)
  let (n, d) := scale q
  encode (roundDiv n d) q

/-- The number of decimal digits of a natural number. -/
def digitCount (n : Nat) : Nat := (Nat.toDigits 10 n).length

/-- The number nearest to `mantissa * 10 ^ exponent`. Decimals far outside the range are settled
without computing their power of ten. -/
def ofDecimal (mantissa : Nat) (exponent : Int) : Binary64 :=
  let places := (digitCount mantissa : Int) + exponent
  if mantissa = 0 then ⟨0⟩
  else if places > 310 then infinity
  else if places < -330 then ⟨0⟩
  else if exponent ≥ 0 then ofQuotient (mantissa * tenTo exponent.toNat) 1
  else ofQuotient mantissa (tenTo (-exponent).toNat)

end Binary64

end RobotKit.Decimal
