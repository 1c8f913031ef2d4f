import VideoIngest.Jpeg.BlockPass
import VideoIngest.Jpeg.Plane
import VideoIngest.Jpeg.Scan

/-!
The coded scans of a progressive image.

Each scan is a pass over the blocks of its components. A scan of a single component covers the
picture with its blocks; one of several components codes the first coefficients only, MCU by MCU.
Prediction and the count of MCUs before a restart begin anew with each scan.
-/

namespace VideoIngest.Jpeg

structure Progression where
  stream : CodedStream
  bareBlocks : Nat
  untilRestart : Nat
  predictions : List Int
  coefficients : Array (Array CoefficientBlock)
  deriving DecidableEq

structure BlockPlace where
  part : ScanComponent
  place : Nat
  deriving DecidableEq, Repr

namespace FrameHeader

def blocksAcross (frame : FrameHeader) (component : Component) : Nat :=
  component.across * frame.mcusAcross

def blocksDown (frame : FrameHeader) (component : Component) : Nat :=
  component.down * frame.mcusDown

def hasExactRoom (frame : FrameHeader) : Bool :=
  frame.roomAcross == frame.components.map frame.blocksAcross

end FrameHeader

namespace Progression

def start (frame : FrameHeader) : Progression :=
  { stream := .ofBytes [], bareBlocks := 0, untilRestart := 0
    predictions := frame.components.map fun _ => 0
    coefficients := (frame.components.map fun component =>
      Array.replicate (frame.blocksAcross component * frame.blocksDown component)
        (Array.replicate 64 0)).toArray }

/-- At the start of a scan, or behind a restart marker: nothing is predicted from what is in
front. -/
def anew (progression : Progression) : Progression :=
  { progression with
    bareBlocks := 0
    predictions := progression.predictions.map fun _ => 0 }

end Progression

namespace Scan

def passPlaces (scan : Scan) : List (List BlockPlace) :=
  let frame := scan.frame
  match scan.parts with
  | [part] =>
      (List.range (frame.blocksCoveringDown part.component)).flatMap fun row =>
        (List.range (frame.blocksCovering part.component)).map fun column =>
          [{ part, place := row * frame.blocksAcross part.component + column }]
  | parts =>
      (List.range frame.mcusDown).flatMap fun mcuRow =>
        (List.range frame.mcusAcross).map fun mcuColumn =>
          parts.flatMap fun part =>
            (List.range part.component.down).flatMap fun down =>
              (List.range part.component.across).map fun across =>
                { part
                  place := (mcuRow * part.component.down + down) *
                    frame.blocksAcross part.component +
                    (mcuColumn * part.component.across + across) }

/-- The first coefficients are coded apart from all others, and these for one component at a
time. -/
def isPass (scan : Scan) : Bool :=
  scan.band.last = 0 || (scan.band.first ≠ 0 && scan.parts.length = 1)

/-- The pass over a block of a component, whose last first coefficient was `prediction`. Returns
what the next one is predicted to be. -/
def passOver (scan : Scan) (part : ScanComponent) (prediction : Int) : Pass Int := do
  let band := scan.band
  if band.first = 0 then
    let some table := lookUp (part.dcTable % tableCount) scan.header.dcTables
      | throw .missingTable
    if band.bitBefore = 0 then Pass.firstOfAll band table prediction
    else
      Pass.laterOfAll band
      return prediction
  else
    let some table := lookUp (part.acTable % tableCount) scan.header.acTables
      | throw .missingTable
    if band.bitBefore = 0 then Pass.first band table else Pass.later band table
    return prediction

def passBlock (scan : Scan) (target : BlockPlace) (progression : Progression) :
    Option ScanFault × Progression :=
  let index := target.part.index
  let prediction := progression.predictions.getD index 0
  let pass : BlockPass :=
    { stream := progression.stream
      bareBlocks := progression.bareBlocks
      block := (progression.coefficients.getD index #[]).getD target.place #[] }
  let kept (pass : BlockPass) : Progression :=
    { progression with
      stream := pass.stream
      bareBlocks := pass.bareBlocks
      coefficients := progression.coefficients.modify index fun blocks =>
        blocks.setIfInBounds target.place pass.block }
  match scan.passOver target.part prediction pass with
  | .ok next pass =>
      (none, { kept pass with predictions := progression.predictions.set index next })
  | .error fault pass => (some fault, kept pass)

def passBlocks (scan : Scan) :
    List BlockPlace → Progression → Option ScanFault × Progression
  | [], progression => (none, progression)
  | target :: others, progression =>
      match scan.passBlock target progression with
      | (some fault, progression) => (some fault, progression)
      | (none, progression) => scan.passBlocks others progression

def passMcus (scan : Scan) :
    List (List BlockPlace) → Progression → Option ScanFault × Progression
  | [], progression => (none, progression)
  | mcu :: others, progression =>
      match scan.passBlocks mcu progression with
      | (some fault, progression) => (some fault, progression)
      | (none, progression) =>
          if progression.untilRestart = 1 then
            match progression.stream.restarted with
            | .error fault => (some fault, progression)
            | .ok (isRestart, stream) =>
                let next :=
                  { progression with stream, untilRestart := scan.header.restartInterval }
                scan.passMcus others (if isRestart then next.anew else next)
          else
            scan.passMcus others
              { progression with untilRestart := progression.untilRestart - 1 }

/-- Decodes a progressive scan, and tells what fault there was. What was decoded in front of it
stays. -/
def pass (scan : Scan) (before : Progression) : Option ScanFault × Progression :=
  let start := before.anew
  let start :=
    { start with
      stream := .ofBytes scan.coded
      untilRestart := scan.header.restartInterval }
  if scan.isPass then scan.passMcus scan.passPlaces start else (some .badCode, start)

end Scan

/-! ### Sequences of scans -/

def knownMarker (bytes : Bytes) : Option (UInt8 × Bytes) :=
  match nextMarker bytes with
  | some (marker, rest) => if isKnown marker then some (marker, rest) else none
  | none => none

def CodedStream.marker? (stream : CodedStream) : Option (UInt8 × Bytes) :=
  match stream.supply with
  | .stopped marker => some (marker, stream.rest)
  | _ => knownMarker stream.rest

def mostScans : Nat := 100

/-- Decodes what follows a marker, up to the end of the image or a fault of a scan. `left` scans may
follow, and each step takes bytes of its own, of which there are up to `count`. -/
def passesBehind (left : Nat) :
    Nat → Header → Option (UInt8 × Bytes) → Progression → Except HeaderFault (Header × Progression)
  | 0, header, _, progression => .ok (header, progression)
  | _, header, none, progression => .ok (header, progression)
  | count + 1, header, some (marker, rest), progression => do
      if marker = endOfImage then return (header, progression)
      else if isRestart marker then
        passesBehind left count header (knownMarker rest) progression
      else if isUnsupported marker then throw (.unsupportedMarker marker)
      else
        let some (body, rest) := segmentBody marker rest | throw .truncated
        if marker = startOfScan then
          let scan ← Scan.ofHeader header body rest
          match scan.pass progression with
          | (some _, progression) => return (header, progression)
          | (none, progression) =>
              match progression.stream.marker?, left with
              | none, _ => return (header, progression)
              | some _, 0 => throw .tooManySegments
              | some found, left + 1 =>
                  passesBehind left count header (some found) progression
        else
          let header ← header.addSegment marker body
          passesBehind left count header (knownMarker rest) progression

/-- All coefficients of a progressive image from its first scan on, and the headers behind them. The
first scan has to be followed by a marker, unless there is a fault in it. -/
def Scan.passes (first : Scan) : Except HeaderFault (Header × Progression) :=
  match first.pass (.start first.frame) with
  | (some _, progression) => .ok (first.header, progression)
  | (none, progression) =>
      match progression.stream.supply with
      | .stopped marker =>
          passesBehind (mostScans - 1) (first.coded.length + 1) first.header
            (some (marker, progression.stream.rest)) progression
      | _ => .error .truncated

/-! ### Samples -/

def CoefficientBlock.scaled (quantizer : List Nat) (block : CoefficientBlock) : Array Int :=
  (List.range 64).foldl (fun scaled position =>
    scaled.setIfInBounds (Pass.place position)
      (Coefficients.scale quantizer position (block.getD (Pass.place position) 0)))
    (Array.replicate 64 0)

def FrameHeader.rasterOf (frame : FrameHeader) (component : Component) (quantizer : List Nat)
    (blocks : Array CoefficientBlock) : Raster :=
  let across := frame.blocksAcross component
  (List.range blocks.size).foldl (fun raster place =>
    let samples := CosineTransform.samples ((blocks.getD place #[]).scaled quantizer)
    raster.put (place / across) (place % across) samples)
    (.blank (8 * across) (64 * blocks.size))

def FrameHeader.progressivePlanes (frame : FrameHeader) (quantizers : List (Nat × List Nat))
    (progression : Progression) : List Plane :=
  frame.planes ((frame.components.zip progression.coefficients.toList).map
    fun (component, blocks) =>
      frame.rasterOf component ((lookUp component.quantTable quantizers).getD []) blocks)

end VideoIngest.Jpeg
