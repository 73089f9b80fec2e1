import RobotKit.Device.Value

/-!
# Arithmetic of robot programs

Integers are exact. An integer that meets a decimal becomes a decimal, but the two are compared
exactly.
-/

namespace RobotKit.Device

open RobotKit.Decimal

/-! ## Numbers -/

/-- The decimal nearest to an integer. -/
def nearest (n : Int) : Except Fault Binary64 :=
  let x := Binary64.ofDecimal n.natAbs 0
  if x.isInfinite then .error .overflow
  else .ok (if n < 0 then x.neg else x)

def Number.toDecimal : Number → Except Fault Binary64
  | .integer value => nearest value
  | .decimal value => .ok value

/-- Applies an operation to two numbers: exactly to integers, otherwise to decimals. -/
def Number.combine (exact : Int → Int → Int) (rounded : Float → Float → Float) (a b : Number) :
    Except Fault Value :=
  match a, b with
  | .integer m, .integer n => .ok (.integer (exact m n))
  | a, b => do
    let x ← a.toDecimal
    let y ← b.toDecimal
    return .decimal (Binary64.ofFloat (rounded x.toFloat y.toFloat))

/-- A finite decimal as a fraction with a positive denominator. -/
def fraction (x : Binary64) : Int × Nat :=
  let (m, q) := x.magnitude
  let sign : Int := if x.isNegative then -1 else 1
  if q ≥ 0 then (sign * (m * twoTo q.toNat : Nat), 1) else (sign * m, twoTo (-q).toNat)

/-- How two numbers compare; not at all if one of them is not a number. -/
def Number.order? : Number → Number → Option Ordering
  | .integer m, .integer n => some (compare m n)
  | .integer m, .decimal y =>
    if y.isNaN then none
    else if y.isInfinite then some (if y.isNegative then .gt else .lt)
    else let (num, den) := fraction y; some (compare (m * den) num)
  | .decimal x, .integer n =>
    if x.isNaN then none
    else if x.isInfinite then some (if x.isNegative then .lt else .gt)
    else let (num, den) := fraction x; some (compare num (n * den))
  | .decimal x, .decimal y =>
    if x.toFloat < y.toFloat then some .lt
    else if x.toFloat > y.toFloat then some .gt
    else if x.toFloat == y.toFloat then some .eq
    else none

/-! ## Values -/

mutual

/-- Are two values equal? Numbers are equal by their value, whatever their kind. -/
def Value.equal : Value → Value → Bool
  | .nothing, .nothing => true
  | .text a, .text b => a = b
  | .bytes a, .bytes b => a = b
  | .list a, .list b => equalItems a b
  | .tuple a, .tuple b => equalItems a b
  | .constant a, .constant b => a = b
  | .part a, .part b => a = b
  | .callback, .callback => true
  | .kind a, .kind b => a = b
  | .routine a b c, .routine d e f => a = d && b = e && c = f
  | .defined a _, .defined b _ => a = b
  | a, b => match a.number?, b.number? with
    | some m, some n => m.order? n = some .eq
    | _, _ => false

def equalItems : List Value → List Value → Bool
  | [], [] => true
  | a :: rest, b :: rest' => a.equal b && equalItems rest rest'
  | _, _ => false

end

namespace Value

/-- The sum of two numbers, or two texts or lists joined. -/
def add (a b : Value) : Except Fault Value :=
  match a, b with
  | .text s, .text t => .ok (.text (s ++ t))
  | .bytes s, .bytes t => .ok (.bytes (s ++ t))
  | .list s, .list t => .ok (.list (s ++ t))
  | .tuple s, .tuple t => .ok (.tuple (s ++ t))
  | a, b => match a.number?, b.number? with
    | some m, some n => m.combine (· + ·) (· + ·) n
    | _, _ => .error .kind

/-- The difference of two numbers. -/
def sub (a b : Value) : Except Fault Value :=
  match a.number?, b.number? with
  | some m, some n => m.combine (· - ·) (· - ·) n
  | _, _ => .error .kind

/-- Copies of a list one after the other. -/
def copies {α : Type} (items : List α) (count : Int) : List α :=
  (List.replicate count.toNat items).flatten

/-- A text or list several times. -/
def repeated? (a : Value) (count : Int) : Option Value :=
  match a with
  | .text s => some (.text (String.ofList (copies s.toList count)))
  | .bytes s => some (.bytes (copies s count))
  | .list s => some (.list (copies s count))
  | .tuple s => some (.tuple (copies s count))
  | _ => none

/-- The product of two numbers, or a text or list several times. -/
def mul (a b : Value) : Except Fault Value :=
  match a.number?, b.number? with
  | some m, some n => m.combine (· * ·) (· * ·) n
  | _, _ =>
    match (b.integer?.bind a.repeated?), (a.integer?.bind b.repeated?) with
    | some v, _ => .ok v
    | none, some v => .ok v
    | none, none => .error .kind

/-- The quotient of two integers, rounded once. -/
def integerQuotient (m n : Int) : Except Fault Value :=
  let x := if m = 0 then ⟨0⟩ else Binary64.ofQuotient m.natAbs n.natAbs
  if x.isInfinite then .error .overflow
  else .ok (.decimal (if (m < 0) ≠ (n < 0) && m ≠ 0 then x.neg else x))

/-- The quotient of a number and a positive integer. -/
def divideBy (a : Value) (n : Nat) : Except Fault Value :=
  match a.number? with
  | some (.integer m) => integerQuotient m n
  | some (.decimal x) => .ok (.decimal (Binary64.ofFloat (x.toFloat / Float.ofNat n)))
  | none => .error .kind

/-- The number with the opposite sign. -/
def negate (a : Value) : Except Fault Value :=
  match a.number? with
  | some (.integer n) => .ok (.integer (-n))
  | some (.decimal x) => .ok (.decimal x.neg)
  | none => .error .kind

/-- The size of a number without its sign. -/
def magnitude (a : Value) : Except Fault Value :=
  match a.number? with
  | some (.integer n) => .ok (.integer n.natAbs)
  | some (.decimal x) => .ok (.decimal (if x.isNegative then x.neg else x))
  | none => .error .kind

mutual

/-- How two values compare: numbers with numbers, texts with texts, lists with lists. -/
def order : Value → Value → Except Fault (Option Ordering)
  | .text s, .text t => .ok (some (compare s t))
  | .bytes s, .bytes t => .ok (some (compare (s.map UInt8.toNat) (t.map UInt8.toNat)))
  | .list s, .list t => orderItems s t
  | .tuple s, .tuple t => orderItems s t
  | a, b => match a.number?, b.number? with
    | some m, some n => .ok (m.order? n)
    | _, _ => .error .kind

/-- How two lists compare: by the first items that differ. -/
def orderItems : List Value → List Value → Except Fault (Option Ordering)
  | [], [] => .ok (some .eq)
  | [], _ => .ok (some .lt)
  | _, [] => .ok (some .gt)
  | a :: rest, b :: rest' => if a.equal b then orderItems rest rest' else order a b

end

def less (a b : Value) : Except Fault Bool := do return (← a.order b) = some .lt

def greater (a b : Value) : Except Fault Bool := do return (← a.order b) = some .gt

def atMost (a b : Value) : Except Fault Bool := do
  return (← a.order b) = some .lt || (← a.order b) = some .eq

def atLeast (a b : Value) : Except Fault Bool := do
  return (← a.order b) = some .gt || (← a.order b) = some .eq

/-- The number of items or characters. -/
def size : Value → Except Fault Nat
  | .text s => .ok s.length
  | .bytes s => .ok s.length
  | .list s => .ok s.length
  | .tuple s => .ok s.length
  | .record s => .ok s.length
  | _ => .error .kind

/-- The items one after the other. -/
def elements : Value → Except Fault (List Value)
  | .text s => .ok (s.toList.map fun c => .text (String.singleton c))
  | .bytes s => .ok (s.map fun b => .integer b.toNat)
  | .list s => .ok s
  | .tuple s => .ok s
  | .record s => .ok (s.map fun entry => .text entry.1)
  | _ => .error .kind

/-- The bits that are set in at least one of two integers. -/
def bitOr : Int → Int → Int
  | .ofNat m, .ofNat n => .ofNat (m ||| n)
  | .ofNat m, .negSucc n => .negSucc (n - (n &&& m))
  | .negSucc m, .ofNat n => .negSucc (m - (m &&& n))
  | .negSucc m, .negSucc n => .negSucc (m &&& n)

/-- Two masks in one: the first moved up by sixteen places, together with the second. -/
def joinMasks (a b : Value) : Except Fault Value :=
  match a.integer?, b.integer? with
  | some m, some n => .ok (.integer (bitOr (m * 65536) n))
  | _, _ => .error .kind

/-- The items of what has items at places. -/
def sequence : Value → Except Fault (List Value)
  | .record _ => .error .missing
  | a => a.elements

def first (a : Value) : Except Fault Value := do
  match (← a.sequence).head? with
  | some item => return item
  | none => .error .index

def last (a : Value) : Except Fault Value := do
  match (← a.sequence).getLast? with
  | some item => return item
  | none => .error .index

end Value

end RobotKit.Device
