/-!
# Packed texts

Large tables are kept packed. A packed text is coded bit by bit, each bit by how probable it was,
and the code is written in digits of base 88. Several models guess every bit. Each looks at another
part of what stands before: the last few characters, the last word, the line above, or what came
after the same five characters last time. A model goes by the last bits that came after such a part
and by how often a one came. The guesses are weighed and added up, and each bit shifts the weights
to the models that guessed well.
-/

namespace RobotKit.Text.Packed

/-! ## Bits -/

/-- The value of a digit. The digits are the exclamation mark, the characters from `$` to `z` but
for the backslash and the backtick, the bar and the tilde. -/
def digitValue (c : Char) : UInt64 :=
  let code := c.val.toUInt64
  if code < 34 then 0 else if code < 92 then code - 35 else if code < 96 then code - 36
  else if code < 123 then code - 37 else code / 2 + 24

/-- The state of the decoder of bits: the digits that are left, and where the code lies in the
range. -/
structure Decoder where
  digits : List Char
  range : UInt64
  code : UInt64

/-- Takes in another digit. -/
def Decoder.next : Decoder → Decoder
  | ⟨[], range, code⟩ => ⟨[], range * 88, code * 88⟩
  | ⟨c :: digits, range, code⟩ => ⟨digits, range * 88, code * 88 + digitValue c⟩

/-- Takes in another digit when the range has become small. -/
def Decoder.refill (decoder : Decoder) : Decoder :=
  if decoder.range < 5277319168 then decoder.next else decoder

/-- The next bit. A one is probable to `chance` parts of 4096. -/
def Decoder.bit (chance : UInt64) : Decoder → UInt32 × Decoder
  | ⟨digits, range, code⟩ =>
    let bound := range / 4096 * chance
    if code < bound then (1, refill (refill ⟨digits, bound, code⟩))
    else (0, refill (refill ⟨digits, range - bound, code - bound⟩))

/-! ## Evidence -/

/-- Values of the logistic function, in parts of 4096, in steps of a half from -8 to 8. -/
def logisticSteps : Array Int32 :=
  #[1, 2, 3, 6, 10, 16, 27, 45, 73, 120, 194, 310, 488, 747, 1101, 1546, 2047, 2549, 2994, 3348,
    3607, 3785, 3901, 3975, 4022, 4050, 4068, 4079, 4085, 4089, 4092, 4093, 4094]

/-- How probable a one is, in parts of 4096. The evidence for it, in parts of 256, is the logarithm
of the odds. -/
def logistic (evidence : Int32) : Int32 :=
  let n := max (-2047) (min 2047 evidence) + 2048
  let place := (n / 128).toNatClampNeg
  (logisticSteps.getD place 0 * (128 - n % 128) + logisticSteps.getD (place + 1) 0 * (n % 128)) / 128

/-- The least evidence that makes a one as probable as the place in the table. -/
def evidences : Array Int32 :=
  (List.range 4095).foldl (fun table n =>
    let evidence := n.toInt32 - 2047
    table ++ Array.replicate ((logistic evidence).toNatClampNeg + 1 - table.size) evidence) #[]

/-- The evidence for a one that is probable to some parts of 65536. -/
def evidenceOf (chance : UInt32) : Int32 := evidences.getD (chance.toNat / 16) 2047

/-- A probability, in parts of 65536, after another bit that counts as one of `count`. -/
def adapt (bit count chance : UInt32) : UInt32 :=
  if bit = 0 then chance - chance / count else chance + (65535 - chance) / count

/-- How probable a one is at first, in parts of 65536, after some bits with a one before them. -/
def firstChances : Array UInt32 :=
  (List.range 256).foldl (fun table history =>
    let before := table.getD (history / 2) 32768
    table.push (if history < 2 then before
      else adapt (history % 2).toUInt32 (history.log2 + 1).toUInt32 before)) #[]

/-! ## Models -/

/-- What the models have learned. -/
structure Memory where
  /-- The last bits, with a one before them, in each place that a model keeps. -/
  histories : ByteArray
  /-- How probable a one is in each place, in parts of 65536, times 64, and how many bits tell it. -/
  tallies : Array UInt32
  /-- How probable a one is, in parts of 65536, for each model and history. -/
  chances : Array UInt32
  /-- The weights of the models, in parts of 131072, for each state of a byte, each last byte and
  each column. -/
  weights : Array Int32

/-- A guess: the place and the history that it rests on, and the evidence of both for a one. -/
structure Guess where
  place : UInt32
  cell : UInt32
  recent : Int32
  overall : Int32

/-- Where a part of the text is kept, in a byte with the bits `node` so far. -/
def slot (part : UInt64) (node : UInt32) : UInt32 :=
  let mixed := part * 0x9E3779B97F4A7C15 + node.toUInt64
  let mixed := (mixed ^^^ mixed >>> 29) * 0xBF58476D1CE4E5B9
  (mixed >>> 42).toUInt32

/-- The guesses of the models, the first of which has the number `model`. -/
def guesses (memory : Memory) (node : UInt32) : UInt32 → List UInt64 → List Guess
  | _, [] => []
  | model, part :: parts =>
    let place := slot part node
    let cell := 256 * model + (memory.histories.get! place.toNat).toUInt32
    let recent := evidenceOf (memory.chances.getD cell.toNat 0)
    let overall := evidenceOf (memory.tallies.getD place.toNat 0 / 64)
    ⟨place, cell, recent, overall⟩ :: guesses memory node (model + 1) parts

/-- Adds up the evidence of the guesses with the weights from a place on. -/
def weigh (weights : Array Int32) (sum : Int64) : Nat → List Guess → Int64
  | _, [] => sum
  | place, guess :: rest =>
    weigh weights (sum + (weights.getD place 0).toInt64 * guess.recent.toInt64
      + (weights.getD (place + 1) 0).toInt64 * guess.overall.toInt64) (place + 2) rest

def shift (miss : Int32) (weights : Array Int32) : Nat → List Guess → Array Int32
  | _, [] => weights
  | place, guess :: rest =>
    let weights := weights.modify place (· + guess.recent * miss / 16384)
    shift miss (weights.modify (place + 1) (· + guess.overall * miss / 16384)) (place + 2) rest

/-- A history with another bit; it holds at most seven. -/
def addBit (bit : UInt32) (history : UInt8) : UInt8 :=
  let longer := 2 * history + bit.toUInt8
  if history < 128 then longer else longer ||| 128

/-- A tally with another bit; it counts up to 60. -/
def countBit (bit tally : UInt32) : UInt32 :=
  let count := tally % 64
  adapt bit (count + 2) (tally / 64) * 64 + min 60 (count + 1)

/-- What is learned about a place and a history from another bit. -/
def learn (bit : UInt32) : Memory → Guess → Memory
  | ⟨histories, tallies, chances, weights⟩, guess =>
    let place := guess.place.toNat
    ⟨histories.set! place (addBit bit (histories.get! place)), tallies.modify place (countBit bit),
      chances.modify guess.cell.toNat (adapt bit 80), weights⟩

/-- The next bit of a byte, after the byte `last` and in the column `column`. The text that is
followed has gone well to some degree, `level`. -/
def nextBit (parts : List UInt64) (node : UInt32) (level last column : Nat) (decoder : Decoder)
    (memory : Memory) : UInt32 × Decoder × Memory :=
  let all := guesses memory node 0 parts
  let rows := [20 * (256 * level + node.toNat), 20 * (2048 + last), 20 * (2304 + min 255 column)]
  let sum := rows.foldl (weigh memory.weights · · all) 0
  let chance := logistic (sum / 131072).toInt32
  let (bit, decoder) := decoder.bit chance.toUInt32.toUInt64
  let miss := (4096 * bit.toInt32 - chance) * 4
  let ⟨histories, tallies, chances, weights⟩ := memory
  let weights := rows.foldl (shift miss · · all) weights
  (bit, decoder, all.foldl (learn bit) ⟨histories, tallies, chances, weights⟩)

/-- The rest of the bits of a byte. The byte that follows the text before is `expected`, with a one
before it. -/
def nextByte (parts : List UInt64) (expected : UInt32) (level last column : Nat) :
    Nat → UInt32 → Decoder → Memory → UInt32 × Decoder × Memory
  | 0, node, decoder, memory => (node, decoder, memory)
  | left + 1, node, decoder, memory =>
    let agreed := if expected >>> (left + 1).toUInt32 = node then level else 0
    let (bit, decoder, memory) := nextBit parts node agreed last column decoder memory
    nextByte parts expected level last column left (2 * node + bit) decoder memory

/-! ## Unpacking -/

/-- A text in the course of unpacking. -/
structure Unpacking where
  decoder : Decoder
  memory : Memory
  text : ByteArray
  /-- The last eight bytes. -/
  recent : UInt64
  /-- A number for the letters and digits at the end. -/
  word : UInt64
  /-- Where the line starts, and the place above the next byte. -/
  line : Nat
  above : Nat
  /-- Where five bytes were last followed by something. -/
  places : Array Nat
  /-- The place that is followed, and how many bytes have agreed so far, if any. -/
  followed : Nat
  agreed : Nat

/-- Unpacks bytes up to a zero, at most `fuel` of them. -/
def unpackBytes : Nat → Unpacking → ByteArray
  | 0, ⟨_, _, text, _, _, _, _, _, _, _⟩ => text
  | fuel + 1, ⟨decoder, memory, text, recent, word, line, above, places, followed, agreed⟩ =>
    let expected := if agreed = 0 then 0 else 256 + (text[followed]?.getD 0).toUInt32
    let level := if agreed = 0 then 0 else min 7 (agreed.log2 + 1)
    let higher := if above < line then (text[above]?.getD 0).toUInt64 else 0
    let last := recent &&& 0xFF
    let parts : List UInt64 := [0, 16 * last + 1, 16 * (recent &&& 0xFFFF) + 2,
      16 * (recent &&& 0xFFFFFF) + 3, 16 * (recent &&& 0xFFFFFFFF) + 4,
      16 * (recent &&& 0xFFFF00) + 5, 16 * word + 6, 16 * (256 * higher + last) + 7,
      16 * (8 * expected + level.toUInt32).toUInt64 + 8, 16 * (256 * expected.toUInt64 + last) + 9]
    let (node, decoder, memory) :=
      nextByte parts expected level last.toNat (text.size - line) 8 1 decoder memory
    let byte := (node - 256).toUInt8
    if byte = 0 then text
    else
      let text := text.push byte
      let recent := recent <<< 8 ||| byte.toUInt64
      let word := if (Char.ofUInt8 byte).isAlphanum then (word + byte.toUInt64) * 0x9E3779B97F4A7C15
        else 0
      let (line, above) := if byte = 10 then (text.size, line) else (line, above + 1)
      let key : UInt64 := ((recent &&& 0xFFFFFFFFFF) * 0x9E3779B97F4A7C15) >>> 46
      let before := places.getD key.toNat 0
      let (followed, agreed) := if node = expected then (followed + 1, agreed + 1)
        else (before, if before = 0 then 0 else 1)
      unpackBytes fuel ⟨decoder, memory, text, recent, word, line, above,
        places.setIfInBounds key.toNat text.size, followed, agreed⟩

/-- Bytes that are one each, twice as many in each turn. -/
def onesOf : Nat → ByteArray
  | 0 => .mk #[1]
  | n + 1 => let ones := onesOf n; ones ++ ones

/-- The text of a packed text. Line ends between the digits do not count. -/
def unpack (packed : String) : String :=
  let digits := packed.toList.filter (· ≠ '\n')
  let start : Decoder := ⟨digits, 1, 0⟩
  let memory : Memory := ⟨onesOf 22, Array.replicate 4194304 2097152,
    (List.replicate 10 firstChances).foldl (· ++ ·) #[], Array.replicate (20 * 2560) 4500⟩
  -- no table is packed to less than a sixteenth
  let text := unpackBytes (16 * digits.length)
    ⟨start.next.next.next.next.next.next, memory, .empty, 0, 0, 0, 0, Array.replicate 262144 0, 0, 0⟩
  String.ofList (text.toList.map fun byte => Char.ofNat byte.toNat)

end RobotKit.Text.Packed
