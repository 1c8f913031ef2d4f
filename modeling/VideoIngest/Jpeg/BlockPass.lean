import VideoIngest.Jpeg.Block
import VideoIngest.Jpeg.Header

/-!
Passes over the blocks of a progressive picture.

A first pass over a band of positions codes the upper bits of its coefficients, and each later pass
codes one more bit: a correction for every coefficient that is not zero, and the coefficients that
begin with this bit. A pass that meets a fault keeps what it has decoded.
-/

namespace VideoIngest.Jpeg

abbrev CoefficientBlock := Array Int

/-- A pass at some block: how many blocks there are from this one on whose bands have no
coefficients to begin, and the block. -/
structure BlockPass where
  stream : CodedStream
  bareBlocks : Nat
  block : CoefficientBlock
  deriving DecidableEq, Repr

abbrev Pass (α : Type) := EStateM ScanFault BlockPass α

namespace Pass

def ofStream {α : Type} (read : CodedStream → Except ScanFault (α × CodedStream)) : Pass α := do
  let pass ← get
  match read pass.stream with
  | .error fault => throw fault
  | .ok (value, stream) =>
      set { pass with stream }
      return value

def fill : Pass Unit := ofStream fun stream => stream.fill.map fun filled => ((), filled)

def fillOnce : Pass Unit := do
  if (← get).stream.bits.left = 0 then fill

def bit : Pass Bool := ofStream fun stream => .ok stream.bit

def bits (count : Nat) : Pass Nat := ofStream fun stream =>
  let (value, bits) := stream.bits.take count
  .ok (value, { stream with bits })

def dropCode (length : Nat) : Pass Unit := ofStream fun stream =>
  (stream.dropCode length).map fun rest => ((), rest)

def place (position : Nat) : Nat := codedOrder.getD (position % 64) 0

def coefficient (position : Nat) : Pass Int := return (← get).block.getD (place position) 0

def put (position : Nat) (value : Int) : Pass Unit :=
  modify fun pass =>
    { pass with block := pass.block.setIfInBounds (place position) (Int.bmod value 65536) }

/-- Says how many blocks follow from this one on without coefficients to begin. The number of bits
in which they are counted is `size`. -/
def countBareBlocks (size : Nat) : Pass Unit := do
  let count ← bits size
  modify fun pass => { pass with bareBlocks := Nat.pow 2 size + count }

def passBareBlock : Pass Unit :=
  modify fun pass => { pass with bareBlocks := pass.bareBlocks - 1 }

/-! ### First passes -/

def firstFrom (band : Band) (table : HuffmanTable) (position : Nat) : Pass Unit := do
  fill
  let stream := (← get).stream
  let (symbol, length) ← ofStream fun stream =>
    (stream.nextSymbol table).map fun found => (found, stream)
  let run := symbol.toNat / 16
  let size := symbol.toNat % 16
  let scale := Nat.pow 2 band.bit
  match stream.closeNumber? length size with
  | some (value, rest) =>
      ofStream fun _ => .ok ((), rest)
      put (min (position + run) BlockCoding.lastPosition) (value * scale)
      if _ : position + run < band.last then firstFrom band table (position + run + 1)
  | none =>
      dropCode length
      if size ≠ 0 then
        let value ← ofStream fun stream => .ok (stream.number size)
        put (position + run) (value * scale)
        if _ : position + run < band.last then firstFrom band table (position + run + 1)
      else if run ≠ 15 then
        countBareBlocks run
        passBareBlock
      else if _ : position + 15 < band.last then firstFrom band table (position + 16)
  termination_by band.last - position

def first (band : Band) (table : HuffmanTable) : Pass Unit := do
  if 0 < (← get).bareBlocks then passBareBlock else firstFrom band table band.first

/-- The first pass over the first coefficients, of which this is coded as its difference from
`prediction`. Returns the coefficient as it is coded. -/
def firstOfAll (band : Band) (table : HuffmanTable) (prediction : Int) : Pass Int := do
  let size ← ofStream fun stream => stream.symbol table
  let difference ← ofStream fun stream => .ok (stream.number size.toNat)
  put 0 ((prediction + difference) * Nat.pow 2 band.bit)
  return prediction + difference

/-! ### Later passes -/

/-- A coefficient with a correction: it is one further from zero in the bit of the pass, unless it
has that bit. -/
def corrected (bit : Nat) (coefficient : Int) : Int :=
  let step : Int := Nat.pow 2 bit
  if coefficient / step % 2 ≠ 0 then coefficient
  else if 0 ≤ coefficient then coefficient + step
  else coefficient - step

def correct (band : Band) (position : Nat) : Pass Unit := do
  let value ← coefficient position
  if ← bit then put position (corrected band.bit value)

/-- Corrects the coefficients from a position on, up to the one behind `run` zeros or the end of the
band. Returns the position. -/
def correctRun (band : Band) (run position : Nat) : Pass Nat := do
  if (← coefficient position) ≠ 0 then
    correct band position
    fillOnce
    if _ : position < band.last then correctRun band run (position + 1) else return position
  else if run = 0 then return position
  else if _ : position < band.last then correctRun band (run - 1) (position + 1)
  else return position
  termination_by band.last - position

def correctFrom (band : Band) (position : Nat) : Pass Unit := do
  if _ : position ≤ band.last then
    if (← coefficient position) ≠ 0 then correct band position
    fillOnce
    correctFrom band (position + 1)
  termination_by band.last + 1 - position

/-- The end of a correction run, which never lies in front of its start. -/
def correctRunFrom (band : Band) (run position : Nat) : Pass Nat := do
  if position ≤ band.last then return max position (← correctRun band run position)
  else return position

/-- A later pass over the band of a block from a position on. Returns the position from which there
are only corrections. -/
def laterFrom (band : Band) (table : HuffmanTable) (position : Nat) : Pass Nat := do
  fill
  let (symbol, length) ← ofStream fun stream =>
    (stream.nextSymbol table).map fun found => (found, stream)
  dropCode length
  let run := symbol.toNat / 16
  let size := symbol.toNat % 16
  if size = 0 ∧ run ≠ 15 then
    countBareBlocks run
    return position
  else if 1 < size then throw .badCode
  else
    let value : Int ← if size = 0 then pure 0 else do
      let step : Int := Nat.pow 2 band.bit
      if ← bit then pure step else pure (-step)
    let next ← correctRunFrom band run position
    if value ≠ 0 then put next value
    if _ : position ≤ next ∧ next < band.last then laterFrom band table (next + 1)
    else return next + 1
  termination_by band.last - position

def isBare (block : CoefficientBlock) : Bool := (block.toList.drop 1).all (· == 0)

def later (band : Band) (table : HuffmanTable) : Pass Unit := do
  let position ← if (← get).bareBlocks = 0 then laterFrom band table band.first
    else pure band.first
  if 0 < (← get).bareBlocks then
    if !isBare (← get).block then
      fill
      correctFrom band position
    passBareBlock

def laterOfAll (band : Band) : Pass Unit := do
  fillOnce
  if (← get).stream.bits.left = 0 then throw .outOfBits
  if ← bit then put 0 ((← coefficient 0) + Nat.pow 2 band.bit)

end Pass
end VideoIngest.Jpeg
